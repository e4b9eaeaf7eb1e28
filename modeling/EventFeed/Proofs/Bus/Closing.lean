import EventFeed.Proofs.Bus.Lag

/-!
# EventFeed.Proofs.Bus.Closing

When a bus is closed, and what is received of it then.  At each moment a
subscription is `due` a row of receptions: the report of a lag, if it has
fallen behind, and the kept events of its namespace.  A reception takes the
first of them (`Subscription.receive_due`); behind the last one it tells that
the bus is closed, if there are no handles left, and otherwise that nothing
has come yet.

A bus without handles cannot be reached any more.  So what a subscription is
due when the last handle goes is what it receives, however receptions of
others come in between, and then the bus is closed for good
(`Bus.Run.closing`).
-/

namespace EventFeed

/-! ## What is due -/

/-- What a subscription is to receive of what the bus has kept for it. -/
def Subscription.due (s : Subscription) (b : Bus) : List (Reception Event) :=
  (if s.receiver.next < b.channel.oldest then [.lagged (b.channel.oldest - s.receiver.next)]
    else []) ++ ((b.channel.unseen s.receiver).filter s.wants).map .item

/-- What there is to receive behind everything kept. -/
def Bus.atEnd (b : Bus) : Reception Event := if b.handles = 0 then .closed else .pending

/-- The first `n` of a row that goes on with `x` for ever. -/
def firstOf {α : Type} (x : α) (xs : List α) (n : Nat) : List α :=
  xs.take n ++ List.replicate (n - xs.length) x

/-- The first of a row, and then the first of what is left of it. -/
theorem firstOf_append {α : Type} (x : α) (xs : List α) (n m : Nat) :
    firstOf x xs n ++ firstOf x (xs.drop n) m = firstOf x xs (n + m) := by
  rcases Nat.le_total n xs.length with hle | hle
  · have hsub : n - xs.length = 0 := Nat.sub_eq_zero_of_le hle
    have hrest : m - (xs.length - n) = n + m - xs.length := by omega
    simp only [firstOf, hsub, List.replicate_zero, List.append_nil, List.length_drop, hrest,
      List.take_add, List.append_assoc]
  · have hdrop : xs.drop n = [] := List.drop_eq_nil_of_le hle
    have hmore : n + m - xs.length = n - xs.length + m := by omega
    simp only [firstOf, hdrop, List.take_nil, List.length_nil, Nat.sub_zero, List.nil_append,
      List.take_of_length_le hle, List.take_of_length_le (Nat.le_add_right_of_le hle), hmore,
      List.append_assoc, List.replicate_append_replicate]

namespace Subscription

/-- **A reception takes the first of what is due**, and leaves the others. -/
theorem receive_due (s : Subscription) (b : Bus) :
    (s.receive b).1 = (s.due b).head?.getD b.atEnd ∧
      (s.receive b).2.due b = (s.due b).tail := by
  have hwants (r : Receiver) : ({ s with receiver := r } : Subscription).wants = s.wants := rfl
  have hend : (if b.channel.isClosed then .closed else .pending) = b.atEnd := by
    rw [Bus.atEnd, Bus.handles, Channel.isClosed]
    by_cases h : b.channel.senders = 0 <;> simp [h]
  unfold receive Channel.receive
  by_cases hlag : s.receiver.next < b.channel.oldest
  · have hunseen : b.channel.unseen ⟨b.channel.oldest⟩ = b.channel.unseen s.receiver := by
      simp only [Channel.unseen, Nat.sub_self, Nat.sub_eq_zero_of_le (Nat.le_of_lt hlag)]
    simp [due, hlag, hunseen, hwants]
  · have hle := Nat.le_of_not_lt hlag
    -- what is behind the first so many unseen items
    have hunseen (k : Nat) : b.channel.unseen ⟨s.receiver.next + k⟩ =
        (b.channel.unseen s.receiver).drop k := by
      simp only [Channel.unseen, List.drop_drop]
      congr 1
      omega
    have hcurrent (k : Nat) : ¬s.receiver.next + k < b.channel.oldest := by omega
    rcases Channel.seek_cases s.wants (b.channel.unseen s.receiver) s.receiver with
      ⟨passed, x, rest, hxs, hpassed, hx, hseek⟩ | ⟨hnone, hseek⟩
    · have hothers : passed.filter s.wants = [] :=
        List.filter_eq_nil_iff.2 fun y hy => by simp [hpassed y hy]
      have hrest : (b.channel.unseen s.receiver).drop (passed.length + 1) = rest := by
        rw [hxs, ← List.drop_drop, List.drop_left]
        rfl
      simp only [hlag, if_false, hseek, due, hcurrent, hunseen, hrest, hwants]
      simp [hxs, hothers, hx]
    · have hothers : (b.channel.unseen s.receiver).filter s.wants = [] :=
        List.filter_eq_nil_iff.2 fun y hy => by simp [hnone y hy]
      simp only [hlag, if_false, hseek, due, hcurrent, hunseen, hwants, hend]
      simp [hothers]

/-- What is due is something, and does not tell the end. -/
theorem isLast_of_mem_due {s : Subscription} {b : Bus} {got : Reception Event}
    (h : got ∈ s.due b) : isLast got = false := by
  simp only [due, List.mem_append, List.mem_map] at h
  rcases h with h | ⟨e, -, rfl⟩
  · split at h
    · rw [List.mem_singleton.1 h]
      rfl
    · cases h
  · rfl

theorem closed_not_mem_due (s : Subscription) (b : Bus) : .closed ∉ s.due b :=
  fun h => Bool.noConfusion (isLast_of_mem_due h)

theorem isLast_atEnd (b : Bus) : isLast b.atEnd = true := by
  unfold Bus.atEnd
  split <;> rfl

/-- With fuel enough, draining takes all that is due, and the end. -/
theorem drainFor_due {fuel : Nat} {s : Subscription} {b : Bus} (h : (s.due b).length < fuel) :
    (drainFor b fuel s).1 = s.due b ++ [b.atEnd] ∧ (drainFor b fuel s).2.due b = [] := by
  induction fuel generalizing s with
  | zero => cases h
  | succ fuel ih =>
    obtain ⟨hgot, hrest⟩ := s.receive_due b
    rw [Bus.drainFor_succ]
    cases hdue : s.due b with
    | nil =>
      rw [hdue] at hgot hrest
      simp only [List.head?_nil, Option.getD_none, List.tail_nil] at hgot hrest
      rw [hgot, if_pos (isLast_atEnd b)]
      exact ⟨rfl, hrest⟩
    | cons got more =>
      have hmine : isLast got = false := isLast_of_mem_due (hdue ▸ List.mem_cons_self)
      rw [hdue] at hgot hrest h
      simp only [List.head?_cons, Option.getD_some, List.tail_cons] at hgot hrest
      obtain ⟨hdrain, hdone⟩ := ih (hrest ▸ Nat.lt_of_succ_lt_succ h)
      rw [hgot, hmine, if_neg Bool.false_ne_true]
      exact ⟨by rw [hdrain, hrest, List.cons_append], hdone⟩

/-- **Draining ends**: it takes all that is due, and then tells the end. -/
theorem drain_due (s : Subscription) (b : Bus) :
    (s.drain b).1 = s.due b ++ [b.atEnd] ∧ (s.drain b).2.due b = [] := by
  refine drainFor_due ?_
  have hunseen : ((b.channel.unseen s.receiver).filter s.wants).length ≤ b.channel.kept.length :=
    Nat.le_trans (List.length_filter_le _ _) (by simp [Channel.unseen])
  simp only [due, List.length_append, List.length_map]
  split
  · simp only [List.length_singleton]
    omega
  · simp only [List.length_nil]
    omega

/-- An event that is due is kept, and one of the namespace. -/
theorem of_item_mem_due {s : Subscription} {b : Bus} {e : Event} (h : .item e ∈ s.due b) :
    e ∈ b.channel.kept ∧ e.channel = s.channel := by
  simp only [due, List.mem_append, List.mem_map, Reception.item.injEq] at h
  rcases h with h | ⟨x, hx, rfl⟩
  · split at h
    · cases List.mem_singleton.1 h
    · cases h
  · obtain ⟨hmem, hwants⟩ := List.mem_filter.1 hx
    exact ⟨List.mem_of_mem_drop hmem, eq_of_beq hwants⟩

/-- So is an event among all that is drained. -/
theorem of_item_mem_drain {s : Subscription} {b : Bus} {e : Event} (h : .item e ∈ (s.drain b).1) :
    e ∈ b.channel.kept ∧ e.channel = s.channel := by
  rw [(s.drain_due b).1, List.mem_append, List.mem_singleton] at h
  refine of_item_mem_due (h.resolve_right fun hend => ?_)
  have hlast := isLast_atEnd b
  rw [← hend] at hlast
  cases hlast

/-- And so is an event that is received. -/
theorem of_receive_item {s : Subscription} {b : Bus} {e : Event} (h : (s.receive b).1 = .item e) :
    e ∈ b.channel.kept ∧ e.channel = s.channel := by
  refine of_item_mem_drain ?_
  rw [drain, Bus.drainFor_succ, h]
  exact List.mem_cons_self

end Subscription

namespace Bus

/-! ## Handles -/

/-- How many handles an operation leaves of so many.  Where there is none, none
can be added. -/
def Operation.handlesLeft (n : Nat) : Operation → Nat
  | .addHandle => if n = 0 then 0 else n + 1
  | .dropHandle => n - 1
  | _ => n

/-- A new bus has one handle. -/
theorem handles_create {capacity : Nat} {b : Bus} (h : create capacity = .ok b) :
    b.handles = 1 := by
  rw [create] at h
  split at h
  · cases h
    rfl
  · cases h

/-- Publishing takes no handle away. -/
theorem handles_publish (b : Bus) (e : Event) : (b.publish e).1.handles = b.handles := by
  simp only [publish, handles, Channel.send?]
  split
  · split <;> rfl
  · rfl

namespace Run

/-- Without a handle, what needs one does nothing. -/
theorem step_of_no_handle {r : Run} {op : Operation} (hneeds : op.needsHandle = true)
    (h : r.bus.handles = 0) : r.step op = (r, .noHandle) := by
  simp [step, hneeds, h]

/-- The handles after one operation. -/
theorem handles_step (r : Run) (op : Operation) :
    (r.step op).1.bus.handles = op.handlesLeft r.bus.handles := by
  by_cases hnone : op.needsHandle = true ∧ r.bus.handles = 0
  · rw [step_of_no_handle hnone.1 hnone.2]
    cases op with
    | addHandle => rw [Operation.handlesLeft, if_pos hnone.2, hnone.2]
    | dropHandle => cases hnone.1
    | _ => rfl
  · have hreached : (op.needsHandle && r.bus.handles == 0) = false := by
      simpa using hnone
    unfold step
    rw [hreached, if_neg Bool.false_ne_true]
    cases op with
    | publish e => exact handles_publish r.bus e
    | receive i => cases hi : r.subscription? i <;> simp only [hi, Operation.handlesLeft]
    | drain i => cases hi : r.subscription? i <;> simp only [hi, Operation.handlesLeft]
    | leave i =>
      cases hi : r.subscription? i with
      | none => simp only [hi, Operation.handlesLeft]
      | some s =>
        simp only [hi]
        rfl
    | addHandle =>
      have hsome : r.bus.handles ≠ 0 := fun h => hnone ⟨rfl, h⟩
      rw [Operation.handlesLeft, if_neg hsome]
      rfl
    | _ => rfl

/-- **The handles of a run** are those that its operations leave. -/
theorem handles_steps (r : Run) (ops : List Operation) :
    (r.steps ops).1.bus.handles = ops.foldl Operation.handlesLeft r.bus.handles := by
  induction ops generalizing r with
  | nil => rfl
  | cons op ops ih =>
    rw [List.foldl_cons, ← handles_step]
    exact ih (r.step op).1

end Run

/-! ## Receptions of a run -/

/-- The receptions among what a subscription notices. -/
def Sight.receptions : List Sight → List (Reception Event)
  | [] => []
  | .received got :: seen => got :: receptions seen
  | .entered _ :: seen => receptions seen

/-- What the subscription of a number gets by operations with these answers. -/
def receptions (i : Nat) (ops : List Operation) (outcomes : List Outcome) :
    List (Reception Event) :=
  Sight.receptions (sights i ops outcomes)

theorem Sight.receptions_append (xs ys : List Sight) :
    receptions (xs ++ ys) = receptions xs ++ receptions ys := by
  induction xs with
  | nil => rfl
  | cons x xs ih =>
    cases x with
    | entered e => exact ih
    | received got => exact congrArg (got :: ·) ih

@[simp] theorem Sight.receptions_map_received (gots : List (Reception Event)) :
    receptions (gots.map .received) = gots := by
  induction gots with
  | nil => rfl
  | cons got gots ih => exact congrArg (got :: ·) ih

theorem receptions_cons (i : Nat) (op : Operation) (o : Outcome) (ops : List Operation)
    (outcomes : List Outcome) : receptions i (op :: ops) (o :: outcomes) =
      Sight.receptions (op.sights i o) ++ receptions i ops outcomes := by
  rw [receptions, sights, List.zip_cons_cons, List.flatMap_cons, Sight.receptions_append]
  rfl

namespace Run

variable {r : Run} {i : Nat} {dues : List (Reception Event)}

/-- The subscription of a number is due this row, unless it is not there. -/
def Owes (r : Run) (i : Nat) (dues : List (Reception Event)) : Prop :=
  ∀ s, r.subscription? i = some s → s.due r.bus = dues

/-- Putting something in the place of another subscription changes nothing. -/
theorem Owes.set_ne (h : r.Owes i dues) {j : Nat} (hj : j ≠ i) (v : Option Subscription) {b : Bus}
    (hb : ∀ s : Subscription, s.due b = s.due r.bus) :
    Owes ⟨b, r.subscriptions.set j v⟩ i dues := by
  intro s hs
  rw [subscription?_set_ne hj] at hs
  rw [hb, h s hs]

/-- What is put in its own place is due what that is due. -/
theorem owes_set_self {s : Subscription} (there : r.subscription? i = some s)
    {v : Option Subscription} {b : Bus} (hv : ∀ t, v = some t → t.due b = dues) :
    Owes ⟨b, r.subscriptions.set i v⟩ i dues := by
  intro t ht
  have hlt := (List.getElem?_eq_some_iff.1 (subscription?_eq_some_iff.1 there)).1
  rw [subscription?_set_self hlt] at ht
  exact hv t ht

/-- An operation that needs no handle gives a subscription the first of what it
is due, if anything, and leaves the others due. -/
theorem Owes.step (h : r.Owes i dues) {op : Operation} (hop : op.needsHandle = false) :
    ∃ n, Sight.receptions (op.sights i (r.step op).2) = firstOf r.bus.atEnd dues n ∧
      (r.step op).1.Owes i (dues.drop n) := by
  have hnothing : ([] : List (Reception Event)) = firstOf r.bus.atEnd dues 0 := by simp [firstOf]
  have heffect := effect_step r op
  generalize r.step op = p at heffect ⊢
  cases heffect with
  | nothing quiet =>
    rw [Operation.sights_of_isQuiet quiet]
    exact ⟨0, hnothing, h⟩
  | @receive j s there =>
    by_cases hj : j = i
    · subst hj
      obtain ⟨hgot, hrest⟩ := s.receive_due r.bus
      rw [h s there] at hgot hrest
      refine ⟨1, ?_, owes_set_self there fun t ht => ?_⟩
      · rw [Operation.sights, if_pos rfl, hgot]
        cases dues <;> simp [Sight.receptions, firstOf]
      · rw [← Option.some.inj ht, List.drop_one]
        exact hrest
    · rw [Operation.sights, if_neg hj]
      exact ⟨0, hnothing, h.set_ne hj _ fun _ => rfl⟩
  | @drain j s there =>
    by_cases hj : j = i
    · subst hj
      obtain ⟨hgots, hrest⟩ := s.drain_due r.bus
      rw [h s there] at hgots
      refine ⟨dues.length + 1, ?_, owes_set_self there fun t ht => ?_⟩
      · rw [Operation.sights, if_pos rfl, hgots, Sight.receptions_map_received, firstOf,
          List.take_of_length_le (Nat.le_succ _), Nat.add_sub_cancel_left]
        rfl
      · rw [← Option.some.inj ht, List.drop_eq_nil_of_le (Nat.le_succ _)]
        exact hrest
    · rw [Operation.sights, if_neg hj]
      exact ⟨0, hnothing, h.set_ne hj _ fun _ => rfl⟩
  | @leave j s there =>
    by_cases hj : j = i
    · subst hj
      exact ⟨0, hnothing, owes_set_self there fun t ht => by cases ht⟩
    · exact ⟨0, hnothing, h.set_ne hj _ fun _ => rfl⟩
  | dropHandle => exact ⟨0, hnothing, h⟩
  | join => cases hop
  | publish => cases hop
  | addHandle => cases hop

/-- The operations leave the handles as they are: there are none, or no
operation has to do with them. -/
def Still (r : Run) (ops : List Operation) : Prop :=
  r.bus.handles = 0 ∨ ∀ op ∈ ops, op.needsHandle = false ∧ op ≠ .dropHandle

/-- One operation then leaves a bus that is as much at its end. -/
theorem Still.step {op : Operation} {ops : List Operation} (h : r.Still (op :: ops)) :
    (r.step op).1.bus.atEnd = r.bus.atEnd ∧ (r.step op).1.Still ops := by
  rcases h with hnone | hall
  · have hstill : (r.step op).1.bus.handles = 0 := by
      rw [handles_step, hnone]
      cases op <;> rfl
    exact ⟨by rw [atEnd, atEnd, hstill, hnone], .inl hstill⟩
  · obtain ⟨⟨hneeds, hdrop⟩, hrest⟩ := List.forall_mem_cons.1 hall
    have hstill : (r.step op).1.bus.handles = r.bus.handles := by
      rw [handles_step]
      cases op with
      | addHandle => cases hneeds
      | dropHandle => exact absurd rfl hdrop
      | _ => rfl
    exact ⟨by rw [atEnd, atEnd, hstill], .inr hrest⟩

/-- **A subscription gets what it is due**, as far as it receives, and then the
end again and again, if the handles stay as they are. -/
theorem Owes.steps (h : r.Owes i dues) {ops : List Operation} (hstill : r.Still ops) :
    ∃ n, receptions i ops (r.steps ops).2 = firstOf r.bus.atEnd dues n := by
  induction ops generalizing r dues with
  | nil => exact ⟨0, by simp [steps, receptions, sights, Sight.receptions, firstOf]⟩
  | cons op ops ih =>
    obtain ⟨hend, hmore⟩ := hstill.step
    rw [steps, receptions_cons]
    obtain ⟨n, hgot, hnext⟩ : ∃ n, Sight.receptions (op.sights i (r.step op).2) =
        firstOf r.bus.atEnd dues n ∧ (r.step op).1.Owes i (dues.drop n) := by
      by_cases hop : op.needsHandle = false
      · exact h.step hop
      · -- what needs a handle finds none
        have hneeds : op.needsHandle = true := by simpa using hop
        have hnone : r.bus.handles = 0 := by
          rcases hstill with hnone | hall
          · exact hnone
          · exact absurd (hall op List.mem_cons_self).1 hop
        rw [step_of_no_handle hneeds hnone]
        refine ⟨0, ?_, h⟩
        cases op <;> simp [Operation.sights, Sight.receptions, firstOf]
    obtain ⟨m, hrest⟩ := ih hnext hmore
    refine ⟨n + m, ?_⟩
    rw [hgot, hrest, hend, firstOf_append]

/-! ## Closed for good -/

/-- While there is a handle, nobody is told that the bus is closed. -/
theorem closed_not_mem_step (r : Run) (i : Nat) (op : Operation) (h : r.bus.handles ≠ 0) :
    .closed ∉ Sight.receptions (op.sights i (r.step op).2) := by
  have hend : r.bus.atEnd = .pending := if_neg h
  have heffect := effect_step r op
  generalize r.step op = p at heffect ⊢
  cases heffect with
  | nothing quiet => simp [Operation.sights_of_isQuiet quiet, Sight.receptions]
  | publish e =>
    rw [Operation.sights]
    split <;> simp [Sight.receptions]
  | @receive j s there =>
    have hdue := s.closed_not_mem_due r.bus
    rw [Operation.sights, (s.receive_due r.bus).1, hend]
    split
    · cases hdues : s.due r.bus with
      | nil => simp [Sight.receptions]
      | cons got more =>
        rw [hdues, List.mem_cons, not_or] at hdue
        simpa [Sight.receptions] using hdue.1
    · simp [Sight.receptions]
  | @drain j s there =>
    have hdue := s.closed_not_mem_due r.bus
    rw [Operation.sights, (s.drain_due r.bus).1, hend]
    split
    · rw [Sight.receptions_map_received]
      simpa using hdue
    · simp [Sight.receptions]
  | _ => simp [Operation.sights, Sight.receptions]

/-- **Closed once is closed for ever.** -/
theorem receptions_eq_append_closed (r : Run) (i : Nat) (ops : List Operation) :
    ∃ before n, receptions i ops (r.steps ops).2 = before ++ List.replicate n .closed ∧
      .closed ∉ before := by
  induction ops generalizing r with
  | nil => exact ⟨[], 0, rfl, List.not_mem_nil⟩
  | cons op ops ih =>
    by_cases hnone : r.bus.handles = 0
    · -- without a handle nothing comes any more, so all that follows is due by now
      obtain ⟨dues, howes, hdues⟩ : ∃ dues, r.Owes i dues ∧ .closed ∉ dues := by
        cases hi : r.subscription? i with
        | none => exact ⟨[], fun s hs => (Option.some_ne_none s (hs.symm.trans hi)).elim,
            List.not_mem_nil⟩
        | some s =>
          refine ⟨s.due r.bus, fun t ht => ?_, s.closed_not_mem_due r.bus⟩
          rw [Option.some.inj (ht.symm.trans hi)]
      have hstill : r.Still (op :: ops) := .inl hnone
      obtain ⟨n, hall⟩ := howes.steps hstill
      have hend : r.bus.atEnd = .closed := if_pos hnone
      rw [hall, hend]
      exact ⟨dues.take n, n - dues.length, rfl, fun h => hdues (List.mem_of_mem_take h)⟩
    · obtain ⟨before, n, hrest, hbefore⟩ := ih (r.step op).1
      refine ⟨Sight.receptions (op.sights i (r.step op).2) ++ before, n, ?_, ?_⟩
      · rw [steps, receptions_cons, hrest, List.append_assoc]
      · rw [List.mem_append, not_or]
        exact ⟨closed_not_mem_step r i op hnone, hbefore⟩

/-- **When a bus is closed** for a subscription, in every state of every run.
The handles are those that the operations have left.  A reception tells that
the bus is closed exactly if there is no handle, no kept event of its namespace
is left for the subscription, and it has not fallen behind.

Draining ends: it gives all that is due, and then tells the end.  The going of
a handle changes nothing of what is due.  While the handles stay as they are,
so when there are none, the subscription gets what it is due in order, whatever
others do, and then the end again and again.  And whoever was told that the bus
is closed is told nothing else any more. -/
theorem closing {capacity : Nat} {r₀ : Run} {before : List Operation}
    (hstart : start capacity = .ok r₀) :
    let r := (r₀.steps before).1
    r.bus.handles = before.foldl Operation.handlesLeft 1 ∧
    ∀ i s, r.subscription? i = some s →
      ((r.step (.receive i)).2 = .received .closed ↔ r.bus.handles = 0 ∧
        (∀ e ∈ r.bus.channel.unseen s.receiver, e.channel ≠ s.channel) ∧
        r.bus.channel.oldest ≤ s.receiver.next) ∧
      (r.step (.drain i)).2 = .drained (s.due r.bus ++ [r.bus.atEnd]) ∧
      s.due (r.step .dropHandle).1.bus = s.due r.bus ∧
      (∀ ops, r.Still ops →
        ∃ n, receptions i ops (r.steps ops).2 = firstOf r.bus.atEnd (s.due r.bus) n) ∧
      ∀ ops, ∃ told n, receptions i ops (r.steps ops).2 = told ++ List.replicate n .closed ∧
        .closed ∉ told := by
  intro r
  have hone : r₀.bus.handles = 1 := handles_create (bus_of_start hstart).1
  refine ⟨by rw [← hone]; exact handles_steps r₀ before, fun i s there => ?_⟩
  have hreceive : (r.step (.receive i)).2 = .received (s.receive r.bus).1 := by
    simp [step, Operation.needsHandle, there]
  have hdrain : (r.step (.drain i)).2 = .drained (s.drain r.bus).1 := by
    simp [step, Operation.needsHandle, there]
  have howes : r.Owes i (s.due r.bus) := fun t ht => by
    rw [Option.some.inj (ht.symm.trans there)]
  refine ⟨?_, by rw [hdrain, (s.drain_due r.bus).1], rfl, fun ops => howes.steps,
    receptions_eq_append_closed r i⟩
  rw [hreceive, (s.receive_due r.bus).1, Outcome.received.injEq]
  have hdue : s.due r.bus = [] ↔ (∀ e ∈ r.bus.channel.unseen s.receiver, e.channel ≠ s.channel) ∧
      r.bus.channel.oldest ≤ s.receiver.next := by
    simp [Subscription.due, Subscription.wants, and_comm]
  have hend : r.bus.atEnd = .closed ↔ r.bus.handles = 0 := by
    by_cases h : r.bus.handles = 0 <;> simp [atEnd, h]
  rw [← hdue, ← hend]
  cases hdues : s.due r.bus with
  | nil => simp
  | cons got more =>
    have hmine := s.closed_not_mem_due r.bus
    rw [hdues, List.mem_cons, not_or] at hmine
    simpa using Ne.symm hmine.1

/-- On a bus of two slots, three events come, then one handle is added and two
are dropped: a lag and two events are due, and behind them the bus is closed. -/
theorem closing_behind_two_of_three :
    let e := Event.publishedAt default .standard "name" (.bool true)
    let r₀ : Run := ⟨⟨Channel.create 2, []⟩, []⟩
    let r := (r₀.steps [.join .standard, .publish e, .publish e, .publish e, .addHandle,
      .dropHandle, .dropHandle]).1
    r.bus.handles = 0 ∧
      (r.step (.drain 0)).2 = .drained [.lagged 1, .item e, .item e, .closed] ∧
      (r.step (.receive 0)).2 ≠ .received .closed := by
  intro e r₀ r
  have hstart : start 2 = .ok r₀ := rfl
  have there : r.subscription? 0 = some ⟨.standard, ⟨0⟩⟩ := rfl
  obtain ⟨hhandles, hall⟩ := @closing 2 r₀ [.join .standard, .publish e, .publish e, .publish e,
    .addHandle, .dropHandle, .dropHandle] hstart
  obtain ⟨hclosed, hdrain, -⟩ := hall 0 _ there
  have hnone : r.bus.handles = 0 := hhandles
  have holdest : r.bus.channel.oldest = 1 := by decide +kernel
  have hkept : r.bus.channel.kept = [e, e] := rfl
  have hunseen : r.bus.channel.unseen ⟨0⟩ = [e, e] := by
    rw [Channel.unseen, holdest, hkept]
    rfl
  have hdue : (Subscription.mk .standard ⟨0⟩).due r.bus = [.lagged 1, .item e, .item e] := by
    simp [Subscription.due, Subscription.wants, holdest, hunseen, e, Event.publishedAt]
  refine ⟨hnone, ?_, fun h => ?_⟩
  · rw [hdrain, hdue, atEnd, if_pos hnone]
    rfl
  · have hcurrent := (hclosed.1 h).2.2
    exact absurd hcurrent (by decide +kernel)

end Run

end Bus

end EventFeed
