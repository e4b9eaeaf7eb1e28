import EventFeed.Namespace
import EventFeed.Time.Timestamp

/-!
# EventFeed.Event

What travels through the feed: a name and some data, sent to a namespace
at a moment.
-/

namespace EventFeed

/-- An event on its way to the listeners of a namespace. -/
structure Event where
  channel : Namespace
  name : String
  data : Json
  timestamp : Timestamp
deriving Repr, Inhabited

namespace Event

/-- The name of the events that listeners wait for unless told otherwise. -/
def standardName : String := "emailmsg"

/-- What an envelope carries of the event: its data, as a member of an
object. -/
def payload (e : Event) : Json := .object [("data", e.data)]

/-- The JSON text of the event. -/
def text (e : Event) : String :=
  Json.record [("namespace", .string e.channel.path), ("event", .string e.name),
    ("data", e.data), ("timestamp", .string e.timestamp.text)]

/-- The event published now. -/
def publishedAt (now : Timestamp) (n : Namespace) (name : String) (data : Json) : Event :=
  ⟨n, name, data, now⟩

end Event

end EventFeed
