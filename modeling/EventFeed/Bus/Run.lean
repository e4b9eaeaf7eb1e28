import EventFeed.Bus.Basic

/-!
# EventFeed.Bus.Run

Runs of a bus: any number of handles and subscriptions, and what happens
to them in which order.  Subscriptions are numbered from zero as they come
to be; a number is never used again.
-/

namespace EventFeed

namespace Bus

/-- What can happen to a bus and its subscriptions. -/
inductive Operation where
  | join (n : Namespace)
  | publish (e : Event)
  | receive (subscription : Nat)
  | drain (subscription : Nat)
  | leave (subscription : Nat)
  | listenerCount (n : Namespace)
  | receiverCount
  | addHandle
  | dropHandle
deriving Repr, Inhabited

namespace Operation

/-- Does the operation need a handle?  Subscriptions live on without one,
and dropping what is not there changes nothing. -/
def needsHandle : Operation → Bool
  | .receive _ | .drain _ | .leave _ | .dropHandle => false
  | _ => true

end Operation

/-- What an operation answers. -/
inductive Outcome where
  /-- The number of a new subscription. -/
  | joined (subscription : Nat)
  /-- A count: of listeners, receivers or handles. -/
  | count (n : Nat)
  | received (got : Reception Event)
  | drained (got : List (Reception Event))
  /-- Was the subscription there before it left? -/
  | left (wasThere : Bool)
  /-- There is no such subscription, or no more. -/
  | noSubscription
  /-- There is no handle left to reach the bus by. -/
  | noHandle
deriving Repr, Inhabited

/-- A bus, and its subscriptions by number; those that have left are
empty places. -/
structure Run where
  bus : Bus
  subscriptions : List (Option Subscription)
deriving Repr, Inhabited

namespace Run

/-- The run that starts with a new bus. -/
def start (capacity : Nat) : Except BusError Run := (Bus.create capacity).map (⟨·, []⟩)

/-- The subscription of a number, if it is there. -/
def subscription? (r : Run) (i : Nat) : Option Subscription := (r.subscriptions[i]?).join

/-- The subscriptions that have not left. -/
def live (r : Run) : List Subscription := r.subscriptions.filterMap id

/-- One operation. -/
def step (r : Run) (op : Operation) : Run × Outcome :=
  if op.needsHandle && r.bus.handles == 0 then (r, .noHandle)
  else
    match op with
    | .join n =>
      let (bus, s) := r.bus.join n
      (⟨bus, r.subscriptions ++ [some s]⟩, .joined r.subscriptions.length)
    | .publish e =>
      let (bus, listeners) := r.bus.publish e
      ({ r with bus }, .count listeners)
    | .receive i =>
      match r.subscription? i with
      | some s =>
        let (got, s) := s.receive r.bus
        ({ r with subscriptions := r.subscriptions.set i (some s) }, .received got)
      | none => (r, .noSubscription)
    | .drain i =>
      match r.subscription? i with
      | some s =>
        let (got, s) := s.drain r.bus
        ({ r with subscriptions := r.subscriptions.set i (some s) }, .drained got)
      | none => (r, .noSubscription)
    | .leave i =>
      match r.subscription? i with
      | some s => (⟨r.bus.leave s, r.subscriptions.set i none⟩, .left true)
      | none => (r, .left false)
    | .listenerCount n => (r, .count (r.bus.listenerCount n))
    | .receiverCount => (r, .count r.bus.receiverCount)
    | .addHandle =>
      let bus := r.bus.addHandle
      ({ r with bus }, .count bus.handles)
    | .dropHandle =>
      let bus := r.bus.dropHandle
      ({ r with bus }, .count bus.handles)

/-- All operations of a list, one after the other. -/
def steps (r : Run) : List Operation → Run × List Outcome
  | [] => (r, [])
  | op :: ops =>
    let (r, o) := r.step op
    let (r, os) := r.steps ops
    (r, o :: os)

end Run

end Bus

end EventFeed
