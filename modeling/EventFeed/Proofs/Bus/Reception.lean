import EventFeed.Bus.Channel

/-!
# EventFeed.Proofs.Bus.Reception

What a receiver gets, told by the row of all items ever sent.  A channel
`Holds` a row if it keeps the newest items of it and counts them all; every
operation of the channel either leaves the row alone or appends to it.  A
receiver then has the items behind its position *ahead* of it, and one
reception is a step on these alone (`Takes`):

* with more items ahead than slots, it is told the excess and skips so
  many;
* otherwise it gets the first item that it wants, and passes over those in
  front of it;
* if it wants none of them, it passes over all.
-/

namespace EventFeed

namespace Channel

variable {α : Type}

/-! ## The row of all items -/

/-- The row is all that was ever sent, and the channel keeps the newest
part of it. -/
structure Holds (c : Channel α) (log : List α) : Prop where
  kept_eq : c.kept = newest c.slots log
  sent_eq : c.sent = log.length

theorem holds_create (capacity : Nat) : (create capacity : Channel α).Holds [] :=
  ⟨by simp [create, newest], rfl⟩

theorem Holds.subscribe {c : Channel α} {log : List α} (h : c.Holds log) :
    c.subscribe.1.Holds log := ⟨h.kept_eq, h.sent_eq⟩

theorem Holds.unsubscribe {c : Channel α} {log : List α} (h : c.Holds log) :
    c.unsubscribe.Holds log := ⟨h.kept_eq, h.sent_eq⟩

theorem Holds.addSender {c : Channel α} {log : List α} (h : c.Holds log) :
    c.addSender.Holds log := ⟨h.kept_eq, h.sent_eq⟩

theorem Holds.dropSender {c : Channel α} {log : List α} (h : c.Holds log) :
    c.dropSender.Holds log := ⟨h.kept_eq, h.sent_eq⟩

/-- Cutting to the newest items once more after each item is the same as
cutting once. -/
theorem newest_append (slots : Nat) (log : List α) (x : α) :
    newest slots (newest slots log ++ [x]) = newest slots (log ++ [x]) := by
  have hle : log.length - slots ≤ log.length := Nat.sub_le _ _
  have hcut : newest slots log ++ [x] = (log ++ [x]).drop (log.length - slots) := by
    rw [newest, List.drop_append_of_le_length hle]
  rw [hcut, newest, newest, List.drop_drop]
  congr 1
  simp only [List.length_drop, List.length_append, List.length_singleton]
  omega

/-- The newest items of the end of a row are among the newest of the row. -/
theorem newest_suffix (slots : Nat) {rest log : List α} (h : rest <:+ log) :
    newest slots rest <:+ newest slots log := by
  obtain ⟨before, rfl⟩ := h
  refine ⟨before.drop ((before ++ rest).length - slots), ?_⟩
  rw [newest, newest, List.drop_append]
  congr 2
  rw [List.length_append]
  omega

theorem Holds.send {c : Channel α} {log : List α} (h : c.Holds log) (x : α) :
    Holds { c with kept := newest c.slots (c.kept ++ [x]), sent := c.sent + 1 } (log ++ [x]) := by
  refine ⟨?_, ?_⟩
  · rw [h.kept_eq]
    exact newest_append c.slots log x
  · rw [List.length_append, List.length_singleton, h.sent_eq]

/-- As many items are gone as do not fit the slots. -/
theorem Holds.oldest_eq {c : Channel α} {log : List α} (h : c.Holds log) :
    c.oldest = log.length - c.slots := by
  rw [oldest, h.kept_eq, h.sent_eq, length_newest]
  omega

/-- A receiver that has not fallen behind has not seen what lies ahead of
it. -/
theorem Holds.unseen_eq {c : Channel α} {log : List α} (h : c.Holds log) {r : Receiver}
    (hr : c.oldest ≤ r.next) : c.unseen r = log.drop r.next := by
  have hold := h.oldest_eq
  rw [unseen, h.kept_eq, newest, List.drop_drop, ← hold]
  congr 1
  omega

/-! ## One reception -/

/-- What a receiver gets that has the items `ahead`, and what is ahead of it
then. -/
inductive Takes (slots : Nat) (wanted : α → Bool) (closed : Bool) :
    List α → Reception α → List α → Prop
  | lagged {ahead : List α} (behind : slots < ahead.length) :
    Takes slots wanted closed ahead (.lagged (ahead.length - slots))
      (ahead.drop (ahead.length - slots))
  | item {passed rest : List α} {x : α} (current : (passed ++ x :: rest).length ≤ slots)
      (others : ∀ y ∈ passed, wanted y = false) (mine : wanted x = true) :
    Takes slots wanted closed (passed ++ x :: rest) (.item x) rest
  | nothing {ahead : List α} (current : ahead.length ≤ slots)
      (others : ∀ y ∈ ahead, wanted y = false) :
    Takes slots wanted closed ahead (if closed then .closed else .pending) []

/-- Was nothing received? -/
def isPending : Reception α → Bool
  | .pending => true
  | _ => false

theorem eq_pending_of_isPending {got : Reception α} (h : isPending got = true) :
    got = .pending := by
  cases got with
  | pending => rfl
  | item x => cases h
  | lagged n => cases h
  | closed => cases h

/-- There is a lag exactly when more items lie ahead than there are slots. -/
theorem Takes.lagged_iff {slots : Nat} {wanted : α → Bool} {closed : Bool} {ahead next : List α}
    {got : Reception α} (h : Takes slots wanted closed ahead got next) :
    (∃ lost, got = .lagged lost) ↔ slots < ahead.length := by
  cases h with
  | lagged behind => exact ⟨fun _ => behind, fun _ => ⟨_, rfl⟩⟩
  | item current =>
    constructor
    · rintro ⟨_, he⟩
      cases he
    · intro hl
      exact absurd current (Nat.not_le.2 hl)
  | nothing current =>
    constructor
    · rintro ⟨_, he⟩
      cases closed <;> cases he
    · intro hl
      exact absurd current (Nat.not_le.2 hl)

/-- A lag is the excess over the slots. -/
theorem Takes.lost_eq {slots lost : Nat} {wanted : α → Bool} {closed : Bool} {ahead next : List α}
    {got : Reception α} (h : Takes slots wanted closed ahead got next) (hgot : got = .lagged lost) :
    0 < lost ∧ lost = ahead.length - slots := by
  have hlag := h.lagged_iff.1 ⟨lost, hgot⟩
  cases h with
  | lagged _ =>
    cases hgot
    exact ⟨Nat.sub_pos_of_lt hlag, rfl⟩
  | item _ _ _ => cases hgot
  | nothing _ _ => cases closed <;> cases hgot

/-- Who is behind is told so, and skips what is lost. -/
theorem Takes.of_behind {slots : Nat} {wanted : α → Bool} {closed : Bool} {ahead next : List α}
    {got : Reception α} (h : Takes slots wanted closed ahead got next)
    (behind : slots < ahead.length) :
    got = .lagged (ahead.length - slots) ∧ next = ahead.drop (ahead.length - slots) := by
  cases h with
  | lagged _ => exact ⟨rfl, rfl⟩
  | item current => exact absurd behind (Nat.not_lt.2 current)
  | nothing current => exact absurd behind (Nat.not_lt.2 current)

/-- If nothing is received, nothing that lies ahead is wanted. -/
theorem Takes.others_of_pending {slots : Nat} {wanted : α → Bool} {closed : Bool}
    {ahead next : List α} (h : Takes slots wanted closed ahead .pending next) :
    ∀ y ∈ ahead, wanted y = false := by
  generalize hgot : Reception.pending = got at h
  cases h with
  | lagged behind => cases hgot
  | item current others mine => cases hgot
  | nothing current others => exact others

/-- Seeking finds the first wanted item, if there is one, and passes over
the others. -/
theorem seek_cases (wanted : α → Bool) (xs : List α) (r : Receiver) :
    (∃ passed x rest, xs = passed ++ x :: rest ∧ (∀ y ∈ passed, wanted y = false) ∧
      wanted x = true ∧ seek wanted xs r = (some x, ⟨r.next + (passed.length + 1)⟩)) ∨
    ((∀ y ∈ xs, wanted y = false) ∧ seek wanted xs r = (none, ⟨r.next + xs.length⟩)) := by
  induction xs generalizing r with
  | nil => exact .inr ⟨fun y hy => absurd hy List.not_mem_nil, rfl⟩
  | cons x xs ih =>
    by_cases hx : wanted x = true
    · refine .inl ⟨[], x, xs, rfl, fun y hy => absurd hy List.not_mem_nil, hx, ?_⟩
      rw [seek, if_pos hx]
      rfl
    · have hf : wanted x = false := Bool.eq_false_iff.2 hx
      rcases ih ⟨r.next + 1⟩ with ⟨passed, y, rest, hxs, hp, hy, hs⟩ | ⟨hall, hs⟩
      · refine .inl ⟨x :: passed, y, rest, by rw [hxs, List.cons_append], ?_, hy, ?_⟩
        · exact List.forall_mem_cons.2 ⟨hf, hp⟩
        · rw [seek, if_neg hx, hs, List.length_cons, Nat.add_right_comm, Nat.add_assoc r.next]
      · refine .inr ⟨List.forall_mem_cons.2 ⟨hf, hall⟩, ?_⟩
        rw [seek, if_neg hx, hs, List.length_cons, Nat.add_right_comm, Nat.add_assoc r.next]

/-- A reception is a step on what lies ahead of the receiver, and it keeps
the receiver within the row. -/
theorem Holds.takes {c : Channel α} {log : List α} (h : c.Holds log) (wanted : α → Bool)
    {r : Receiver} (hr : r.next ≤ log.length) :
    Takes c.slots wanted c.isClosed (log.drop r.next) (c.receive wanted r).1
      (log.drop (c.receive wanted r).2.next) ∧ (c.receive wanted r).2.next ≤ log.length := by
  have hold := h.oldest_eq
  have hlen : (log.drop r.next).length = log.length - r.next := List.length_drop
  rw [receive]
  by_cases hlag : r.next < c.oldest
  · -- what is lost lies between the receiver and the oldest kept item
    have hlost : c.oldest - r.next = (log.drop r.next).length - c.slots := by omega
    have hrest : log.drop c.oldest =
        (log.drop r.next).drop ((log.drop r.next).length - c.slots) := by
      rw [List.drop_drop]
      congr 1
      omega
    rw [if_pos hlag, hlost, hrest]
    refine ⟨.lagged (by omega), ?_⟩
    show c.oldest ≤ log.length
    omega
  · rw [if_neg hlag, h.unseen_eq (Nat.le_of_not_lt hlag)]
    have hcur : (log.drop r.next).length ≤ c.slots := by omega
    rcases seek_cases wanted (log.drop r.next) r with
      ⟨passed, x, rest, hxs, hp, hx, hs⟩ | ⟨hall, hs⟩
    · have hdrop : log.drop (r.next + (passed.length + 1)) = rest := by
        rw [← List.drop_drop, hxs, List.drop_length_add_append]
        rfl
      have hsize : passed.length + (rest.length + 1) = log.length - r.next := by
        rw [← hlen, hxs, List.length_append, List.length_cons]
      rw [hxs] at hcur
      rw [hs]
      simp only [hdrop]
      rw [hxs]
      exact ⟨.item hcur hp hx, by omega⟩
    · have hdrop : log.drop (r.next + (log.drop r.next).length) = [] := by
        rw [hlen]
        exact List.drop_eq_nil_of_le (by omega)
      rw [hs]
      simp only [hdrop]
      exact ⟨.nothing hcur hall, by omega⟩

end Channel

end EventFeed
