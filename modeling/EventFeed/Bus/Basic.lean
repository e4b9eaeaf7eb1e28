import EventFeed.Bus.Channel
import EventFeed.Event

/-!
# EventFeed.Bus.Basic

The bus between those who publish events and those who listen.  One
channel carries the events of all namespaces; a subscription takes its own
out of it and passes over the others.  Beside the channel the bus counts
the subscriptions of each namespace, and an event that nobody waits for
does not enter the channel, so it takes nobody's slot.

A bus is reached through handles; when the last one is gone, no more
events can come.
-/

namespace EventFeed

/-! ## Counts -/

/-- How many subscriptions each namespace has; namespaces without any are
left out. -/
abbrev Counts := List (Namespace × Nat)

namespace Counts

/-- The count of a namespace. -/
def count (cs : Counts) (n : Namespace) : Nat := (cs.lookup n).getD 0

/-- One more for a namespace. -/
def increment (n : Namespace) : Counts → Counts
  | [] => [(n, 1)]
  | (m, k) :: rest => if m = n then (m, k + 1) :: rest else (m, k) :: increment n rest

/-- One less for a namespace, which is left out when none remains. -/
def decrement (n : Namespace) : Counts → Counts
  | [] => []
  | (m, k) :: rest =>
    if m = n then (if k - 1 = 0 then rest else (m, k - 1) :: rest)
    else (m, k) :: decrement n rest

/-- All counts together. -/
def total : Counts → Nat
  | [] => 0
  | (_, k) :: rest => k + total rest

end Counts

/-! ## The bus -/

/-- The bus: its channel, and how many subscriptions each namespace has. -/
structure Bus where
  channel : Channel Event
  joined : Counts
deriving Repr, Inhabited

/-- A subscription: its namespace, and how far it has come in the
channel. -/
structure Subscription where
  channel : Namespace
  receiver : Receiver
deriving Repr, DecidableEq, Inhabited

/-- Why a bus cannot be made. -/
inductive BusError where
  | tooManySlots
deriving Repr, DecidableEq

/-- The error in words. -/
def BusError.message : BusError → String
  | .tooManySlots => "broadcast channel capacity exceeded `usize::MAX / 2`"

namespace Bus

/-- The largest capacity there is. -/
def maxCapacity : Nat := 0x7fffffffffffffff

/-- A bus for at least `capacity` events.  A capacity of zero counts as
one. -/
def create (capacity : Nat) : Except BusError Bus :=
  if capacity ≤ maxCapacity then .ok ⟨Channel.create (max capacity 1), []⟩
  else .error .tooManySlots

/-- How many subscriptions a namespace has. -/
def listenerCount (b : Bus) (n : Namespace) : Nat := b.joined.count n

/-- How many subscriptions there are on all namespaces. -/
def receiverCount (b : Bus) : Nat := b.channel.receivers

/-- How many handles lead to the bus. -/
def handles (b : Bus) : Nat := b.channel.senders

/-- Publish an event, and tell how many subscriptions its namespace has.
Without any the event is dropped. -/
def publish (b : Bus) (e : Event) : Bus × Nat :=
  let listeners := b.listenerCount e.channel
  if 0 < listeners then ({ b with channel := (b.channel.send? e).getD b.channel }, listeners)
  else (b, listeners)

/-- Join a namespace. -/
def join (b : Bus) (n : Namespace) : Bus × Subscription :=
  let (channel, receiver) := b.channel.subscribe
  (⟨channel, b.joined.increment n⟩, ⟨n, receiver⟩)

/-- Leave: the subscription is over. -/
def leave (b : Bus) (s : Subscription) : Bus :=
  ⟨b.channel.unsubscribe, b.joined.decrement s.channel⟩

/-- One handle more. -/
def addHandle (b : Bus) : Bus := { b with channel := b.channel.addSender }

/-- One handle less. -/
def dropHandle (b : Bus) : Bus := { b with channel := b.channel.dropSender }

end Bus

namespace Subscription

/-- Is the event addressed to this subscription? -/
def wants (s : Subscription) (e : Event) : Bool := e.channel == s.channel

/-- Receive the next event, without waiting for one. -/
def receive (s : Subscription) (b : Bus) : Reception Event × Subscription :=
  let (got, receiver) := b.channel.receive s.wants s.receiver
  (got, { s with receiver })

/-- Is there nothing more to receive for now? -/
def isLast : Reception Event → Bool
  | .pending | .closed => true
  | .item _ | .lagged _ => false

/-- Receive up to `fuel` times, until there is nothing more. -/
def drainFor (b : Bus) : Nat → Subscription → List (Reception Event) × Subscription
  | 0, s => ([], s)
  | fuel + 1, s =>
    let (got, s) := s.receive b
    if isLast got then ([got], s)
    else
      let (more, s) := drainFor b fuel s
      (got :: more, s)

/-- Receive all there is, up to and including the first reception that says
so.  There is at most one report of a lag, and then at most every kept
event. -/
def drain (s : Subscription) (b : Bus) : List (Reception Event) × Subscription :=
  drainFor b (b.channel.kept.length + 2) s

end Subscription

end EventFeed
