import EventFeed.Gateway.Connection
import EventFeed.Gateway.Respond

/-!
# EventFeed.Gateway.Run

The gateway with its connections, step by step.  Requests come in, clients
send messages, and the tasks of the connections take their turns; all of
this in any order.  A connection is numbered when it is opened, and keeps
its number.

A task that ends gives up its subscription.
-/

namespace EventFeed

namespace Gateway

/-- A connection: its subscription, the messages of the client that its
task has not read yet, the texts it has sent, oldest first, and whether it
still runs and can be sent to. -/
structure Connection where
  subscription : Subscription
  unread : List Incoming
  sent : List String
  isOpen : Bool
  sendable : Bool
deriving Repr, Inhabited

namespace Connection

/-- A connection that was just opened. -/
def opened (s : Subscription) : Connection := ⟨s, [], [], true, true⟩

/-- The connection after a text was sent. -/
def send (c : Connection) (text : String) : Connection := { c with sent := c.sent ++ [text] }

end Connection

/-- The gateway: the bus, and all connections ever opened. -/
structure State where
  bus : Bus
  connections : List Connection
deriving Repr, Inhabited

/-- What can happen to the gateway. -/
inductive Action where
  /-- A request comes; its connection may be one that can be upgraded. -/
  | request (upgradable : Bool) (r : Http.Request)
  /-- The client of a connection sends something, or goes away. -/
  | arrive (connection : Nat) (m : Incoming)
  /-- Nothing more can be sent on a connection. -/
  | sever (connection : Nat)
  /-- The task of a connection reads from its client. -/
  | readClient (connection : Nat)
  /-- The task of a connection reads from the bus. -/
  | readBus (connection : Nat)
  /-- An event is published on the bus directly. -/
  | publish (e : Event)
  /-- The gateway gives up the bus. -/
  | shutdown
deriving Repr, Inhabited

namespace State

/-- A gateway that was just started. -/
def start (capacity : Nat) : Except BusError State := (Bus.create capacity).map (⟨·, []⟩)

/-- The connection of a number, if it still runs. -/
def open? (g : State) (i : Nat) : Option Connection :=
  (g.connections[i]?).filter (·.isOpen)

/-- The gateway with a connection replaced. -/
def put (g : State) (i : Nat) (c : Connection) : State :=
  { g with connections := g.connections.set i c }

/-- End a connection: its subscription is given up. -/
def finish (g : State) (i : Nat) (c : Connection) : State :=
  { bus := g.bus.leave c.subscription
    connections := g.connections.set i { c with isOpen := false } }

/-- Let the task of a connection deal with something. -/
def apply (g : State) (fresh : Fresh) (i : Nat) (c : Connection) (s : Stimulus) : State :=
  match react fresh s with
  | .nothing => g.put i c
  | .finish => g.finish i c
  | .send text => if c.sendable then g.put i (c.send text) else g.finish i c

/-- One step of the gateway, and the answer if it was a request. -/
def step (g : State) (fresh : Fresh) : Action → State × Option Answer
  | .request upgradable r =>
    let (bus, answer) := respond fresh.now upgradable g.bus r
    match answer with
    | .upgrade s => (⟨bus, g.connections ++ [Connection.opened s]⟩, some answer)
    | .response _ => ({ g with bus }, some answer)
  | .arrive i m =>
    match g.connections[i]? with
    | some c => (g.put i { c with unread := c.unread ++ [m] }, none)
    | none => (g, none)
  | .sever i =>
    match g.connections[i]? with
    | some c => (g.put i { c with sendable := false }, none)
    | none => (g, none)
  | .readClient i =>
    match g.open? i with
    | some c =>
      match c.unread with
      | m :: unread => (g.apply fresh i { c with unread } (.ofClient m), none)
      | [] => (g, none)
    | none => (g, none)
  | .readBus i =>
    match g.open? i with
    | some c =>
      let (got, subscription) := c.subscription.receive g.bus
      (g.apply fresh i { c with subscription } (.ofBus got), none)
    | none => (g, none)
  | .publish e => ({ g with bus := (g.bus.publish e).1 }, none)
  | .shutdown => ({ g with bus := g.bus.dropHandle }, none)

/-- All steps of a run, one after the other. -/
def run (g : State) : List (Fresh × Action) → State × List (Option Answer)
  | [] => (g, [])
  | (fresh, a) :: rest =>
    let (g, answer) := g.step fresh a
    let (g, answers) := g.run rest
    (g, answer :: answers)

end State

end Gateway

end EventFeed
