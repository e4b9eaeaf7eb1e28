import EventFeed.Proofs.Gateway.Delivery
import Mathlib.Data.List.TakeWhile

/-!
# EventFeed.Proofs.Gateway.Task

What the task of a connection does with its turns.  A task takes turns up to
the first one that is its last (`Turn.isLast`): the client closes the
connection or cannot be read, the bus is closed, or something cannot be sent.
Before that, it sends an error for every text of the client and an envelope
for every event, in their order, and nothing else (`runTask_eq`).

In a run of the gateway the turns of a connection come in the order in which
the gateway lets its task read (`State.turns`); what the connection has sent,
and whether it still runs, is decided by them alone (`State.sent_run`).
-/

namespace EventFeed

namespace Gateway

/-! ## Turns -/

namespace Turn

/-- Is this the last turn of a task? -/
def isLast (t : Turn) : Bool :=
  match t.stimulus with
  | .ofClient (.frame .close) | .ofClient .failed | .ofClient .ended | .ofBus .closed => true
  | .ofClient (.frame (.text _)) | .ofBus (.item _) => !t.sendable
  | .ofClient (.frame (.binary _)) | .ofClient (.frame (.ping _)) | .ofClient (.frame (.pong _))
  | .ofBus (.lagged _) | .ofBus .pending => false

/-- Does it deal with something from the bus? -/
def isOfBus (t : Turn) : Bool :=
  match t.stimulus with
  | .ofBus _ => true
  | .ofClient _ => false

/-- The error that answers a text of the client. -/
def reply? (t : Turn) : Option String :=
  match t.stimulus with
  | .ofClient (.frame (.text s)) => some (replyTo t.fresh.now s).text
  | _ => none

/-- The envelope of an event. -/
def envelope? (t : Turn) : Option String :=
  match t.stimulus with
  | .ofBus (.item e) => some (Envelope.ofEvent t.fresh.id e).text
  | _ => none

/-- The text that is due in the turn, if there is one. -/
def text? (t : Turn) : Option String := t.reply?.or t.envelope?

/-- The turns before the last one. -/
def taken (ts : List Turn) : List Turn := ts.takeWhile (!·.isLast)

variable {t : Turn} {ts : List Turn}

theorem taken_cons_of_last (h : t.isLast = true) : taken (t :: ts) = [] := by
  simp [taken, h]

theorem taken_cons (h : t.isLast = false) : taken (t :: ts) = t :: taken ts := by
  simp [taken, h]

/-- Envelopes come of what the bus gives. -/
theorem envelope?_of_client (h : t.isOfBus = false) : t.envelope? = none := by
  obtain ⟨stimulus, fresh, sendable⟩ := t
  cases stimulus with
  | ofClient m => rfl
  | ofBus got => cases h

/-- What the bus gives is not replied to. -/
theorem text?_of_bus (h : t.isOfBus = true) : t.text? = t.envelope? := by
  obtain ⟨stimulus, fresh, sendable⟩ := t
  cases stimulus with
  | ofClient m => cases h
  | ofBus got => rfl

/-- A row of turns and the row of those with something from the bus have the
same envelopes. -/
theorem filterMap_envelope? (ts : List Turn) :
    ts.filterMap envelope? = (ts.filter isOfBus).filterMap text? := by
  induction ts with
  | nil => rfl
  | cons t ts ih =>
    cases h : t.isOfBus with
    | false =>
      rw [List.filterMap_cons_none (envelope?_of_client h), ih,
        List.filter_cons_of_neg (by simp [h])]
    | true =>
      rw [List.filter_cons_of_pos h, List.filterMap_cons, List.filterMap_cons, text?_of_bus h, ih]

/-- What a task takes from the bus is the front of what it would take from it
without its client. -/
theorem filter_taken_prefix (ts : List Turn) :
    (taken ts).filter isOfBus <+: taken (ts.filter isOfBus) := by
  induction ts with
  | nil => exact List.prefix_refl _
  | cons t ts ih =>
    cases hlast : t.isLast with
    | true =>
      rw [taken_cons_of_last hlast]
      exact List.nil_prefix
    | false =>
      rw [taken_cons hlast]
      cases h : t.isOfBus with
      | false =>
        rw [List.filter_cons_of_neg (by simp [h]), List.filter_cons_of_neg (by simp [h])]
        exact ih
      | true =>
        rw [List.filter_cons_of_pos h, List.filter_cons_of_pos h, taken_cons hlast]
        exact (List.prefix_cons_inj t).2 ih

/-- It is all of that if the client does not end the task. -/
theorem filter_taken_eq (h : ∀ t ∈ ts, t.isLast = true → t.isOfBus = true) :
    (taken ts).filter isOfBus = taken (ts.filter isOfBus) := by
  induction ts with
  | nil => rfl
  | cons t ts ih =>
    obtain ⟨ht, hts⟩ := List.forall_mem_cons.1 h
    cases hlast : t.isLast with
    | true =>
      rw [taken_cons_of_last hlast, List.filter_cons_of_pos (ht hlast), taken_cons_of_last hlast]
      rfl
    | false =>
      rw [taken_cons hlast]
      cases hbus : t.isOfBus with
      | false =>
        rw [List.filter_cons_of_neg (by simp [hbus]), List.filter_cons_of_neg (by simp [hbus]),
          ih hts]
      | true =>
        rw [List.filter_cons_of_pos hbus, List.filter_cons_of_pos hbus, taken_cons hlast, ih hts]

end Turn

open Turn (taken)

/-! ## The whole task -/

/-- What a task does about something: it ends; it does nothing, and nothing is
due; or it sends what is due, and ends if it cannot. -/
theorem react_cases (fresh : Fresh) (s : Stimulus) :
    (react fresh s = .finish ∧ ∀ b, (Turn.mk s fresh b).isLast = true) ∨
    (react fresh s = .nothing ∧
      ∀ b, (Turn.mk s fresh b).isLast = false ∧ (Turn.mk s fresh b).text? = none) ∨
    ∃ text, react fresh s = .send text ∧
      ∀ b, (Turn.mk s fresh b).isLast = !b ∧ (Turn.mk s fresh b).text? = some text := by
  match s with
  | .ofClient .failed | .ofClient .ended | .ofClient (.frame .close) | .ofBus .closed =>
    exact .inl ⟨rfl, fun _ => rfl⟩
  | .ofClient (.frame (.binary _)) | .ofClient (.frame (.ping _)) | .ofClient (.frame (.pong _))
  | .ofBus (.lagged _) | .ofBus .pending => exact .inr (.inl ⟨rfl, fun _ => ⟨rfl, rfl⟩⟩)
  | .ofClient (.frame (.text _)) | .ofBus (.item _) =>
    exact .inr (.inr ⟨_, rfl, fun _ => ⟨rfl, rfl⟩⟩)

/-- Behind its last turn a task does nothing. -/
theorem runTask_cons_of_last {t : Turn} (h : t.isLast = true) (ts : List Turn) :
    runTask (t :: ts) = ([], ts) := by
  obtain ⟨s, fresh, sendable⟩ := t
  rw [runTask]
  rcases react_cases fresh s with ⟨hreact, -⟩ | ⟨hreact, hturn⟩ | ⟨text, hreact, hturn⟩
  · simp only [hreact]
  · rw [(hturn sendable).1] at h
    cases h
  · rw [(hturn sendable).1, Bool.not_eq_true'] at h
    simp only [hreact, h, Bool.false_eq_true, if_false]

/-- Before that it sends what is due. -/
theorem runTask_cons {t : Turn} (h : t.isLast = false) (ts : List Turn) :
    runTask (t :: ts) = (t.text?.toList ++ (runTask ts).1, (runTask ts).2) := by
  obtain ⟨s, fresh, sendable⟩ := t
  rw [runTask]
  rcases react_cases fresh s with ⟨hreact, hturn⟩ | ⟨hreact, hturn⟩ | ⟨text, hreact, hturn⟩
  · rw [hturn sendable] at h
    cases h
  · simp only [hreact, (hturn sendable).2, Option.toList_none, List.nil_append]
  · obtain ⟨hlast, htext⟩ := hturn sendable
    rw [hlast, Bool.not_eq_false'] at h
    rw [htext]
    simp only [hreact, h, if_true, Option.toList_some, List.singleton_append]

/-- **What a task sends**: the texts that are due in the turns before its last
one, which is the last that it takes. -/
theorem runTask_eq (ts : List Turn) :
    runTask ts = ((taken ts).filterMap Turn.text?, ts.drop ((taken ts).length + 1)) := by
  induction ts with
  | nil => rfl
  | cons t ts ih =>
    cases h : t.isLast with
    | true =>
      rw [runTask_cons_of_last h, Turn.taken_cons_of_last h]
      rfl
    | false =>
      rw [runTask_cons h, ih, Turn.taken_cons h, ← List.singleton_append, List.filterMap_append,
        filterMap_one, List.singleton_append]
      rfl

/-! ## One turn in the gateway -/

/-- What stays of a connection as long as its task takes no turn. -/
structure Connection.Rests (c d : Connection) : Prop where
  sent : d.sent = c.sent
  isOpen : d.isOpen = c.isOpen
  channel : d.subscription.channel = c.subscription.channel

theorem Connection.Rests.trans {c d e : Connection} (h : c.Rests d) (hnext : d.Rests e) :
    c.Rests e :=
  ⟨hnext.sent.trans h.sent, hnext.isOpen.trans h.isOpen, hnext.channel.trans h.channel⟩

namespace State

variable {g : State} {i : Nat} {c : Connection}

/-- What the gateway lets the task of a connection do in a turn. -/
theorem apply_eq (g : State) (fresh : Fresh) (i : Nat) (c : Connection) (s : Stimulus) :
    g.apply fresh i c s =
      if (Turn.mk s fresh c.sendable).isLast then g.finish i c
      else g.put i { c with sent := c.sent ++ (Turn.mk s fresh c.sendable).text?.toList } := by
  rw [apply]
  rcases react_cases fresh s with ⟨hreact, hturn⟩ | ⟨hreact, hturn⟩ | ⟨text, hreact, hturn⟩
  · simp only [hreact, hturn c.sendable, if_true]
  · obtain ⟨hlast, htext⟩ := hturn c.sendable
    simp only [hreact, hlast, htext, Bool.false_eq_true, if_false, Option.toList_none,
      List.append_nil]
  · obtain ⟨hlast, htext⟩ := hturn c.sendable
    simp only [hreact, hlast, htext]
    by_cases hsendable : c.sendable = true
    · rw [if_pos hsendable, if_neg (by simp [hsendable])]
      rfl
    · rw [if_neg hsendable, if_pos (by simpa using hsendable)]

/-- The turn that the task of a connection takes when this happens, if it
takes one. -/
def turn? (g : State) (fresh : Fresh) (i : Nat) : Action → Option Turn
  | .readClient j =>
    if j = i then
      (g.open? i).bind fun c => c.unread.head?.map fun m => ⟨.ofClient m, fresh, c.sendable⟩
    else none
  | .readBus j =>
    if j = i then
      (g.open? i).map fun c => ⟨.ofBus (c.subscription.receive g.bus).1, fresh, c.sendable⟩
    else none
  | _ => none

/-- The turns of a connection in a run. -/
def turns (g : State) (i : Nat) : List (Fresh × Action) → List Turn
  | [] => []
  | (fresh, a) :: rest => (g.turn? fresh i a).toList ++ turns (g.step fresh a).1 i rest

/-- Only a connection that runs takes turns. -/
theorem exists_open_of_turn {fresh : Fresh} {a : Action} {t : Turn}
    (h : g.turn? fresh i a = some t) : ∃ c, g.open? i = some c := by
  cases hopen : g.open? i with
  | some c => exact ⟨c, rfl⟩
  | none =>
    unfold turn? at h
    split at h
    · simp [hopen] at h
    · simp [hopen] at h
    · cases h

/-- A turn sends what is due, or ends the task if it is the last. -/
theorem step_of_turn (hopen : g.open? i = some c) {fresh : Fresh} {a : Action} {t : Turn}
    (h : g.turn? fresh i a = some t) :
    ∃ d : Connection, d.subscription.channel = c.subscription.channel ∧ d.sent = c.sent ∧
      d.isOpen = c.isOpen ∧ (g.step fresh a).1 =
        if t.isLast then g.finish i d else g.put i { d with sent := d.sent ++ t.text?.toList } := by
  unfold turn? at h
  split at h
  · next j =>
    split at h
    · next hj =>
      subst hj
      rw [hopen, Option.bind_some, Option.map_eq_some_iff] at h
      obtain ⟨m, hm, rfl⟩ := h
      obtain ⟨unread, hunread⟩ := List.head?_eq_some_iff.1 hm
      refine ⟨{ c with unread }, rfl, rfl, rfl, ?_⟩
      simp only [step, hopen, hunread, apply_eq]
    · cases h
  · next j =>
    split at h
    · next hj =>
      subst hj
      rw [hopen, Option.map_some] at h
      cases h
      refine ⟨{ c with subscription := (c.subscription.receive g.bus).2 }, rfl, rfl, rfl, ?_⟩
      simp only [step, hopen, apply_eq]
    · cases h
  · cases h

/-- What is put in the place of another connection. -/
theorem getElem?_put_ne {j : Nat} (h : j ≠ i) (t : Connection) :
    (g.put j t).connections[i]? = g.connections[i]? := by
  rw [put, List.getElem?_set_ne h]

theorem getElem?_put_self {t : Connection} (h : g.connections[i]? = some c) :
    (g.put i t).connections[i]? = some t := by
  rw [put, List.getElem?_set_self (List.getElem?_eq_some_iff.1 h).1]

theorem getElem?_finish_ne {j : Nat} (h : j ≠ i) (t : Connection) :
    (g.finish j t).connections[i]? = g.connections[i]? := by
  rw [finish, List.getElem?_set_ne h]

theorem getElem?_finish_self {t : Connection} (h : g.connections[i]? = some c) :
    (g.finish i t).connections[i]? = some { t with isOpen := false } := by
  rw [finish, List.getElem?_set_self (List.getElem?_eq_some_iff.1 h).1]

/-- A turn of another connection leaves this one alone. -/
theorem getElem?_apply_ne {j : Nat} (h : j ≠ i) (fresh : Fresh) (d : Connection) (s : Stimulus) :
    (g.apply fresh j d s).connections[i]? = g.connections[i]? := by
  rw [apply_eq]
  split
  · exact getElem?_finish_ne h d
  · exact getElem?_put_ne h _

/-- What happens beside the turns of a task changes neither what its
connection has sent, nor whether it runs, nor its namespace. -/
theorem rests_step (h : g.connections[i]? = some c) {fresh : Fresh} {a : Action}
    (hturn : g.turn? fresh i a = none) :
    ∃ d, (g.step fresh a).1.connections[i]? = some d ∧ c.Rests d := by
  have hsame : ∃ d, g.connections[i]? = some d ∧ c.Rests d := ⟨c, h, rfl, rfl, rfl⟩
  have hput (j : Nat) {e d : Connection} (he : g.connections[j]? = some e) (hrests : e.Rests d) :
      ∃ d', (g.put j d).connections[i]? = some d' ∧ c.Rests d' := by
    by_cases hj : j = i
    · subst hj
      obtain rfl := Option.some.inj (h.symm.trans he)
      exact ⟨d, getElem?_put_self h, hrests⟩
    · exact ⟨c, (getElem?_put_ne hj d).trans h, rfl, rfl, rfl⟩
  cases a with
  | request upgradable r =>
    simp only [step]
    split
    · refine ⟨c, ?_, rfl, rfl, rfl⟩
      rw [List.getElem?_append_left (List.getElem?_eq_some_iff.1 h).1, h]
    · exact hsame
  | arrive j m =>
    simp only [step]
    split
    · next e he => exact hput j he ⟨rfl, rfl, rfl⟩
    · exact hsame
  | sever j =>
    simp only [step]
    split
    · next e he => exact hput j he ⟨rfl, rfl, rfl⟩
    · exact hsame
  | readClient j =>
    simp only [step]
    split
    · next e he =>
      split
      · next m unread hunread =>
        have hj : j ≠ i := by
          rintro rfl
          simp [turn?, he, hunread] at hturn
        exact ⟨c, (getElem?_apply_ne hj _ _ _).trans h, rfl, rfl, rfl⟩
      · exact hsame
    · exact hsame
  | readBus j =>
    simp only [step]
    split
    · next e he =>
      have hj : j ≠ i := by
        rintro rfl
        simp [turn?, he] at hturn
      exact ⟨c, (getElem?_apply_ne hj _ _ _).trans h, rfl, rfl, rfl⟩
    · exact hsame
  | publish e => exact hsame
  | shutdown => exact hsame

/-- A connection stays on its namespace. -/
theorem channel_step (h : g.connections[i]? = some c) (fresh : Fresh) (a : Action) :
    ∃ d, (g.step fresh a).1.connections[i]? = some d ∧
      d.subscription.channel = c.subscription.channel := by
  cases hturn : g.turn? fresh i a with
  | none =>
    obtain ⟨d, hd, hrests⟩ := rests_step h hturn
    exact ⟨d, hd, hrests.channel⟩
  | some t =>
    obtain ⟨e, hopen⟩ := exists_open_of_turn hturn
    obtain rfl := Option.some.inj (h.symm.trans (open?_eq_some_iff.1 hopen).1)
    obtain ⟨d, hchannel, -, -, hstep⟩ := step_of_turn hopen hturn
    rw [hstep]
    split
    · exact ⟨_, getElem?_finish_self h, hchannel⟩
    · exact ⟨_, getElem?_put_self h, hchannel⟩

/-! ## All turns of a run -/

/-- A connection stays on its namespace in every run. -/
theorem channel_run (h : g.connections[i]? = some c) (steps : List (Fresh × Action)) :
    ∃ d, (g.run steps).1.connections[i]? = some d ∧
      d.subscription.channel = c.subscription.channel := by
  induction steps generalizing g c with
  | nil => exact ⟨c, h, rfl⟩
  | cons p rest ih =>
    obtain ⟨d, hd, hchannel⟩ := channel_step h p.1 p.2
    obtain ⟨e, he, hlast⟩ := ih hd
    exact ⟨e, he, hlast.trans hchannel⟩

/-- A connection that has ended takes no turns. -/
theorem turns_of_closed (h : g.connections[i]? = some c) (hclosed : c.isOpen = false)
    (steps : List (Fresh × Action)) :
    g.turns i steps = [] ∧
      ∃ d, (g.run steps).1.connections[i]? = some d ∧ c.Rests d := by
  induction steps generalizing g c with
  | nil => exact ⟨rfl, c, h, rfl, rfl, rfl⟩
  | cons p rest ih =>
    obtain ⟨fresh, a⟩ := p
    have hturn : g.turn? fresh i a = none := by
      cases hturn : g.turn? fresh i a with
      | none => rfl
      | some t =>
        obtain ⟨d, hd⟩ := exists_open_of_turn hturn
        obtain ⟨hd, hopen⟩ := open?_eq_some_iff.1 hd
        obtain rfl := Option.some.inj (h.symm.trans hd)
        rw [hclosed] at hopen
        cases hopen
    obtain ⟨d, hd, hrests⟩ := rests_step h hturn
    obtain ⟨hnone, e, he, hlast⟩ := ih hd (hrests.isOpen.trans hclosed)
    refine ⟨?_, e, he, hrests.trans hlast⟩
    rw [turns, hturn, hnone]
    rfl

/-- **What a connection has sent** at the end of a run is what its task sends in
its turns, which are all taken; it runs if none of them was the last. -/
theorem sent_run (h : g.open? i = some c) (steps : List (Fresh × Action)) :
    ∃ d, (g.run steps).1.connections[i]? = some d ∧
      d.sent = c.sent ++ (runTask (g.turns i steps)).1 ∧ (runTask (g.turns i steps)).2 = [] ∧
      (d.isOpen = true ↔ ∀ t ∈ g.turns i steps, t.isLast = false) := by
  induction steps generalizing g c with
  | nil =>
    obtain ⟨hget, hopen⟩ := open?_eq_some_iff.1 h
    exact ⟨c, hget, (List.append_nil _).symm, rfl, by simp [hopen, turns]⟩
  | cons p rest ih =>
    obtain ⟨fresh, a⟩ := p
    have hget := (open?_eq_some_iff.1 h).1
    have hopen := (open?_eq_some_iff.1 h).2
    have hrun : (g.run ((fresh, a) :: rest)).1 = ((g.step fresh a).1.run rest).1 := rfl
    rw [hrun, turns]
    cases hturn : g.turn? fresh i a with
    | none =>
      obtain ⟨d, hd, hrests⟩ := rests_step hget hturn
      obtain ⟨e, he, hsent, hall⟩ := ih (open?_eq_some_iff.2 ⟨hd, hrests.isOpen.trans hopen⟩)
      exact ⟨e, he, hrests.sent ▸ hsent, hall⟩
    | some t =>
      obtain ⟨d, -, hdsent, hdopen, hstep⟩ := step_of_turn h hturn
      rw [hstep, Option.toList_some, List.singleton_append]
      cases hlast : t.isLast with
      | true =>
        rw [if_pos rfl]
        obtain ⟨hnone, e, he, hrests⟩ := turns_of_closed (getElem?_finish_self hget) rfl rest
        rw [hnone, runTask_cons_of_last hlast]
        refine ⟨e, he, ?_, rfl, ?_⟩
        · rw [hrests.sent, List.append_nil]
          exact hdsent
        · simp [hrests.isOpen, hlast]
      | false =>
        rw [if_neg (by decide)]
        have hopen' : (g.put i { d with sent := d.sent ++ t.text?.toList }).open? i =
            some { d with sent := d.sent ++ t.text?.toList } :=
          open?_eq_some_iff.2 ⟨getElem?_put_self hget, hdopen.trans hopen⟩
        obtain ⟨e, he, hsent, htaken, hall⟩ := ih hopen'
        rw [runTask_cons hlast]
        refine ⟨e, he, ?_, htaken, ?_⟩
        · rw [hsent, ← hdsent, List.append_assoc]
        · rw [hall, List.forall_mem_cons, and_iff_right hlast]

end State

end Gateway

end EventFeed
