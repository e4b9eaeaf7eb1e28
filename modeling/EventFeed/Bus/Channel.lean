/-!
# EventFeed.Bus.Channel

A channel that hands every item to every receiver.  The channel keeps the
newest items only, as many as it has slots, and each receiver has a
position of its own among all the items ever sent.  A receiver that has
fallen behind the oldest kept item is told how many items it has lost, and
goes on with that one.

A receiver starts at the end of what has been sent, so it sees only what
comes later.  The channel is closed when its last sender is gone; what it
keeps can still be received.
-/

namespace EventFeed

/-! ## Slots -/

/-- How many slots a channel has: the capacity asked for, at least one,
rounded up to a power of two. -/
def slotsFor (capacity : Nat) : Nat :=
  if capacity ≤ 1 then 1 else 1 <<< ((capacity - 1).log2 + 1)

theorem slotsFor_pos (capacity : Nat) : 0 < slotsFor capacity := by
  unfold slotsFor
  split
  · decide
  · rw [Nat.one_shiftLeft]
    exact Nat.two_pow_pos _

/-- There are at least as many slots as were asked for. -/
theorem le_slotsFor (capacity : Nat) : capacity ≤ slotsFor capacity := by
  unfold slotsFor
  split
  · assumption
  · have := @Nat.lt_log2_self (capacity - 1)
    rw [Nat.one_shiftLeft]
    omega

/-- The number of slots is the least power of two that suffices. -/
theorem slotsFor_lt (capacity : Nat) (h : 1 < capacity) : slotsFor capacity < 2 * capacity := by
  have hne : capacity - 1 ≠ 0 := by omega
  have := Nat.log2_self_le hne
  simp only [slotsFor, Nat.not_le.2 h, if_false, Nat.one_shiftLeft, Nat.pow_succ]
  omega

/-! ## The channel -/

/-- A channel of items of type `α`. -/
structure Channel (α : Type) where
  slots : Nat
  /-- The newest items, oldest first. -/
  kept : List α
  /-- How many items have been sent in all. -/
  sent : Nat
  receivers : Nat
  senders : Nat
deriving Repr, DecidableEq, Inhabited

/-- A receiver: how many of all items it is done with. -/
structure Receiver where
  next : Nat
deriving Repr, DecidableEq, Inhabited

/-- What a receiver gets when it looks for the next item. -/
inductive Reception (α : Type) where
  | item (x : α)
  | lagged (lost : Nat)
  | pending
  | closed
deriving Repr, DecidableEq, Inhabited

namespace Channel

variable {α : Type}

/-- A new channel with one sender. -/
def create (capacity : Nat) : Channel α := ⟨slotsFor capacity, [], 0, 0, 1⟩

/-- How many of the items sent are gone: the position of the oldest kept
item. -/
def oldest (c : Channel α) : Nat := c.sent - c.kept.length

/-- Is the last sender gone? -/
def isClosed (c : Channel α) : Bool := c.senders == 0

/-! ## Ends -/

/-- A new receiver. -/
def subscribe (c : Channel α) : Channel α × Receiver :=
  ({ c with receivers := c.receivers + 1 }, ⟨c.sent⟩)

/-- One receiver less. -/
def unsubscribe (c : Channel α) : Channel α := { c with receivers := c.receivers - 1 }

/-- One sender more. -/
def addSender (c : Channel α) : Channel α := { c with senders := c.senders + 1 }

/-- One sender less. -/
def dropSender (c : Channel α) : Channel α := { c with senders := c.senders - 1 }

/-! ## Items -/

/-- The newest items of a row, as many as there are slots. -/
def newest (slots : Nat) (items : List α) : List α := items.drop (items.length - slots)

/-- Send an item.  An item that nobody can receive is refused. -/
def send? (c : Channel α) (x : α) : Option (Channel α) :=
  if c.receivers = 0 then none
  else some { c with kept := newest c.slots (c.kept ++ [x]), sent := c.sent + 1 }

/-- The kept items that a receiver has not seen. -/
def unseen (c : Channel α) (r : Receiver) : List α := c.kept.drop (r.next - c.oldest)

/-- Look for the first unseen item that passes the test, from a row of
unseen ones: the item, if there is one, and the receiver behind it. -/
def seek (wanted : α → Bool) : List α → Receiver → Option α × Receiver
  | [], r => (none, r)
  | x :: xs, r => if wanted x then (some x, ⟨r.next + 1⟩) else seek wanted xs ⟨r.next + 1⟩

/-- Receive the next item that passes the test, without waiting for one.
Items that do not pass are lost to this receiver. -/
def receive (c : Channel α) (wanted : α → Bool) (r : Receiver) : Reception α × Receiver :=
  if r.next < c.oldest then (.lagged (c.oldest - r.next), ⟨c.oldest⟩)
  else
    match seek wanted (c.unseen r) r with
    | (some x, r) => (.item x, r)
    | (none, r) => (if c.isClosed then .closed else .pending, r)

/-! ## Laws -/

theorem length_newest (slots : Nat) (items : List α) :
    (newest slots items).length = min slots items.length := by
  simp only [newest, List.length_drop]
  omega

end Channel

end EventFeed
