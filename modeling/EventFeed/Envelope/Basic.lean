import EventFeed.Event
import EventFeed.Uuid

/-!
# EventFeed.Envelope.Basic

The messages on a connection.  Gateway and client wrap everything they say
in an envelope; events carry their name in it, and errors answer the
request whose identifier they repeat.
-/

namespace EventFeed

namespace Envelope

/-- What an envelope is for. -/
inductive Kind where
  | command
  | response
  | event
  | error
deriving Repr, DecidableEq, Inhabited

namespace Kind

/-- The name of the kind in JSON. -/
def name : Kind → String
  | .command => "command"
  | .response => "response"
  | .event => "event"
  | .error => "error"

/-- All kinds. -/
def all : List Kind := [.command, .response, .event, .error]

/-- The kind of a name. -/
def ofName? (s : String) : Option Kind := all.find? (·.name == s)

/-- A kind is found by its name. -/
@[simp] theorem ofName?_name (k : Kind) : ofName? k.name = some k := by
  cases k <;> decide

end Kind

end Envelope

/-- A message on a connection. -/
structure Envelope where
  id : String
  kind : Envelope.Kind
  event : Option String
  timestamp : Timestamp
  payload : Json
deriving Repr, Inhabited

namespace Envelope

/-! ## Writing -/

/-- The member that names the event, if there is one. -/
def eventMember : Option String → List (String × Json)
  | some name => [("event", .string name)]
  | none => []

/-- The members of the envelope, in the order they are written. -/
def members (m : Envelope) : List (String × Json) :=
  [("id", .string m.id), ("type", .string m.kind.name)] ++ eventMember m.event ++
    [("timestamp", .string m.timestamp.text), ("payload", m.payload)]

/-- The JSON text of the envelope. -/
def text (m : Envelope) : String := Json.record m.members

/-! ## Making -/

/-- The envelope of an event, under a fresh identifier. -/
def ofEvent (id : Uuid) (e : Event) : Envelope :=
  ⟨id.hyphenated, .event, some e.name, e.timestamp, e.payload⟩

/-- The error that answers the request `id`. -/
def refusal (now : Timestamp) (id : String) (code : Nat) (message : String) : Envelope :=
  ⟨id, .error, none, now, .object [("code", .ofNat code), ("message", .string message)]⟩

end Envelope

end EventFeed
