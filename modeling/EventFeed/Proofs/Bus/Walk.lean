import EventFeed.Bus.Run
import EventFeed.Proofs.Bus.Service

/-!
# EventFeed.Proofs.Bus.Walk

One subscription's way through the events.  Of all that happens on a bus,
a subscription notices two things (`Sight`): that an event enters the
channel, and what it receives itself.  A `Walk` reads such a row from its
start and says which events lie ahead of the subscription at each moment:
an event that enters goes to the end, and each reception takes a step from
the front.

Read as a whole, a walk gives every event a fate (`Fate`), and the events
with their fates are the whole history up to where the subscription stands.
-/

namespace EventFeed

namespace Bus

/-! ## What a subscription notices -/

/-- What happens for one subscription. -/
inductive Sight where
  /-- An event enters the channel. -/
  | entered (e : Event)
  /-- The subscription receives something. -/
  | received (got : Reception Event)

/-- The events that entered. -/
def Sight.history : List Sight → List Event
  | [] => []
  | .entered e :: seen => e :: history seen
  | .received _ :: seen => history seen

/-- The events that were received. -/
def Sight.items : List Sight → List Event
  | [] => []
  | .received (.item e) :: seen => e :: items seen
  | _ :: seen => items seen

/-- How many events were reported as lost. -/
def Sight.lost : List Sight → Nat
  | [] => 0
  | .received (.lagged n) :: seen => n + lost seen
  | _ :: seen => lost seen

/-! ## Walks -/

/-- The way of a subscription to a namespace, on a channel with so many
slots: the events ahead of it at first, what happens, and the events ahead
of it at last. -/
inductive Walk (n : Namespace) (slots : Nat) : List Event → List Sight → List Event → Prop
  | done (ahead : List Event) : Walk n slots ahead [] ahead
  | entered {ahead rest : List Event} {e : Event} {seen : List Sight} :
    Walk n slots (ahead ++ [e]) seen rest → Walk n slots ahead (.entered e :: seen) rest
  | received {ahead next rest : List Event} {got : Reception Event} {seen : List Sight}
      {closed : Bool} (step : Channel.Takes slots (·.channel == n) closed ahead got next) :
    Walk n slots next seen rest → Walk n slots ahead (.received got :: seen) rest

namespace Walk

variable {n : Namespace} {slots : Nat} {ahead next rest : List Event} {seen more : List Sight}

/-- A walk goes on where another one ended. -/
theorem trans (h : Walk n slots ahead seen next) (hmore : Walk n slots next more rest) :
    Walk n slots ahead (seen ++ more) rest := by
  induction h with
  | done => exact hmore
  | entered _ ih => exact .entered (ih hmore)
  | received step _ ih => exact .received step (ih hmore)

/-- A walk can be stopped anywhere. -/
theorem split (h : Walk n slots ahead (seen ++ more) rest) :
    ∃ next, Walk n slots ahead seen next ∧ Walk n slots next more rest := by
  induction seen generalizing ahead with
  | nil => exact ⟨ahead, .done ahead, h⟩
  | cons sight seen ih =>
    cases h with
    | entered h =>
      obtain ⟨next, hseen, hmore⟩ := ih h
      exact ⟨next, .entered hseen, hmore⟩
    | received step h =>
      obtain ⟨next, hseen, hmore⟩ := ih h
      exact ⟨next, .received step hseen, hmore⟩

/-- Events that enter lie ahead. -/
theorem of_entered (ahead es : List Event) :
    Walk n slots ahead (es.map .entered) (ahead ++ es) := by
  induction es generalizing ahead with
  | nil =>
    rw [List.append_nil]
    exact .done ahead
  | cons e es ih =>
    have h := ih (ahead ++ [e])
    rw [List.append_assoc] at h
    exact .entered h

/-- One reception is a walk. -/
theorem of_takes {got : Reception Event} {closed : Bool}
    (step : Channel.Takes slots (·.channel == n) closed ahead got next) :
    Walk n slots ahead [.received got] next := .received step (.done next)

end Walk

/-! ## Fates -/

/-- What becomes of an event for a subscription. -/
inductive Fate where
  /-- The subscription received it. -/
  | delivered
  /-- The subscription passed over it. -/
  | passed
  /-- The channel had given it up before. -/
  | lost
deriving DecidableEq

/-- The events of a row that have a fate. -/
def having (fate : Fate) (marks : List (Event × Fate)) : List Event :=
  (marks.filter (·.2 = fate)).map (·.1)

@[simp] theorem having_nil (fate : Fate) : having fate [] = [] := rfl

theorem having_append (fate : Fate) (xs ys : List (Event × Fate)) :
    having fate (xs ++ ys) = having fate xs ++ having fate ys := by
  simp [having]

theorem having_map (fate other : Fate) (es : List Event) :
    having fate (es.map (·, other)) = if other = fate then es else [] := by
  by_cases h : other = fate
  · simp [having, h, List.filter_map, Function.comp_def]
  · simp [having, h, List.filter_map, Function.comp_def]

/-- How the events of a walk have fared, up to where the subscription stands.
They are the history from its start; those delivered are those received, in
their order, and belong to the namespace; those passed over belong to
others; and those lost are as many as were reported, and never among the
newest that the slots hold. -/
structure Fared (n : Namespace) (slots : Nat) (history : List Event) (seen : List Sight)
    (rest : List Event) (marks : List (Event × Fate)) : Prop where
  covers : history = marks.map (·.1) ++ rest
  received : having .delivered marks = Sight.items seen
  reported : (having .lost marks).length = Sight.lost seen
  mine : ∀ e, (e, Fate.delivered) ∈ marks → e.channel = n
  others : ∀ e, (e, Fate.passed) ∈ marks → e.channel ≠ n
  old : ∀ (k : Nat) (e : Event), marks[k]? = some (e, .lost) → k + slots < history.length

/-- A lag: a block of lost events. -/
theorem fared_lagged {n : Namespace} {slots : Nat} {ahead : List Event}
    (behind : slots < ahead.length) :
    Fared n slots ahead [.received (.lagged (ahead.length - slots))]
      (ahead.drop (ahead.length - slots))
      ((ahead.take (ahead.length - slots)).map (·, .lost)) where
  covers := by
    rw [List.map_map]
    simp [Function.comp_def, List.take_append_drop]
  received := by
    rw [having_map]
    rfl
  reported := by
    rw [having_map, if_pos rfl, List.length_take_of_le (Nat.sub_le _ _)]
    rfl
  mine := by
    intro e he
    simp only [List.mem_map, Prod.mk.injEq, reduceCtorEq, and_false, exists_false] at he
  others := by
    intro e he
    simp only [List.mem_map, Prod.mk.injEq, reduceCtorEq, and_false, exists_false] at he
  old := by
    intro k e hk
    have hlt := (List.getElem?_eq_some_iff.1 hk).1
    rw [List.length_map, List.length_take_of_le (Nat.sub_le _ _)] at hlt
    omega

/-- An event: a block of passed ones, with a delivered one behind them. -/
theorem fared_item {n : Namespace} {slots : Nat} {passed rest : List Event} {e : Event}
    (others : ∀ x ∈ passed, (x.channel == n) = false) (mine : (e.channel == n) = true) :
    Fared n slots (passed ++ e :: rest) [.received (.item e)] rest
      (passed.map (·, .passed) ++ [(e, .delivered)]) where
  covers := by simp [Function.comp_def]
  received := by
    rw [having_append, having_map]
    rfl
  reported := by
    rw [having_append, having_map]
    rfl
  mine := by simpa using mine
  others := by simpa using others
  old := by
    intro k x hk
    have hmem := List.mem_of_getElem? hk
    simp at hmem

/-- Nothing: a block of passed events. -/
theorem fared_nothing {n : Namespace} {slots : Nat} {closed : Bool} {ahead : List Event}
    (others : ∀ x ∈ ahead, (x.channel == n) = false) :
    Fared n slots ahead [.received (if closed then .closed else .pending)] []
      (ahead.map (·, .passed)) where
  covers := by simp [Function.comp_def]
  received := by
    rw [having_map]
    cases closed <;> rfl
  reported := by
    rw [having_map]
    cases closed <;> rfl
  mine := by simp
  others := by simpa using others
  old := by
    intro k x hk
    have hmem := List.mem_of_getElem? hk
    simp at hmem

/-- What one reception takes from the front has fared somehow. -/
theorem fared_of_takes {n : Namespace} {slots : Nat} {closed : Bool} {ahead next : List Event}
    {got : Reception Event} (h : Channel.Takes slots (·.channel == n) closed ahead got next) :
    ∃ block, Fared n slots ahead [.received got] next block := by
  cases h with
  | lagged behind => exact ⟨_, fared_lagged behind⟩
  | item _ others mine => exact ⟨_, fared_item others mine⟩
  | nothing _ others => exact ⟨_, fared_nothing others⟩

theorem Sight.items_received (got : Reception Event) (seen : List Sight) :
    items (.received got :: seen) = items [.received got] ++ items seen := by
  cases got <;> rfl

theorem Sight.lost_received (got : Reception Event) (seen : List Sight) :
    lost (.received got :: seen) = lost [.received got] + lost seen := by
  cases got <;> simp [lost]

/-- The fates of a reception come before the fates of what follows. -/
theorem Fared.cons {n : Namespace} {slots : Nat} {ahead next later rest : List Event}
    {got : Reception Event} {seen : List Sight} {block marks : List (Event × Fate)}
    (h : Fared n slots ahead [.received got] next block)
    (hseen : Fared n slots (next ++ later) seen rest marks) :
    Fared n slots (ahead ++ later) (.received got :: seen) rest (block ++ marks) where
  covers := by
    rw [h.covers, List.append_assoc, hseen.covers, List.map_append, List.append_assoc]
  received := by rw [having_append, h.received, hseen.received, Sight.items_received got seen]
  reported := by
    rw [having_append, List.length_append, h.reported, hseen.reported,
      Sight.lost_received got seen]
  mine := by
    intro e he
    exact (List.mem_append.1 he).elim (h.mine e) (hseen.mine e)
  others := by
    intro e he
    exact (List.mem_append.1 he).elim (h.others e) (hseen.others e)
  old := by
    intro k e hk
    have hlen : ahead.length = block.length + next.length := by
      rw [h.covers, List.length_append, List.length_map]
    rw [List.length_append]
    by_cases hlt : k < block.length
    · rw [List.getElem?_append_left hlt] at hk
      exact Nat.lt_add_right _ (h.old k e hk)
    · rw [List.getElem?_append_right (Nat.le_of_not_lt hlt)] at hk
      have hold := hseen.old _ e hk
      rw [List.length_append] at hold
      omega

/-- Every event that a walk has reached has a fate. -/
theorem Walk.fared {n : Namespace} {slots : Nat} {ahead rest : List Event} {seen : List Sight}
    (h : Walk n slots ahead seen rest) :
    ∃ marks, Fared n slots (ahead ++ Sight.history seen) seen rest marks := by
  induction h with
  | done ahead =>
    exact ⟨[], by simp [Sight.history], rfl, rfl, fun e he => absurd he List.not_mem_nil,
      fun e he => absurd he List.not_mem_nil, fun k e hk => by simp at hk⟩
  | entered _ ih =>
    -- an event that enters lies ahead until a reception reaches it, so it has no fate yet
    obtain ⟨marks, hm⟩ := ih
    rw [List.append_assoc] at hm
    exact ⟨marks, hm.covers, hm.received, hm.reported, hm.mine, hm.others, hm.old⟩
  | received step _ ih =>
    obtain ⟨marks, hm⟩ := ih
    obtain ⟨block, hb⟩ := fared_of_takes step
    exact ⟨block ++ marks, hb.cons hm⟩

end Bus

end EventFeed
