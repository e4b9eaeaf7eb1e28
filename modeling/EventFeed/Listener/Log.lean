/-!
# EventFeed.Listener.Log

The payloads a listener has received, in the order they came.  A log only
ever grows.
-/

namespace EventFeed

/-- Received payloads, oldest first. -/
structure Log where
  entries : List String
deriving Repr, DecidableEq, Inhabited

namespace Log

/-- The log before anything was received. -/
def empty : Log := ⟨[]⟩

/-- The log with one more payload. -/
def push (l : Log) (payload : String) : Log := ⟨l.entries ++ [payload]⟩

/-- How many payloads were received. -/
def length (l : Log) : Nat := l.entries.length

/-- Was nothing received yet? -/
def isEmpty (l : Log) : Bool := l.entries.isEmpty

@[simp] theorem entries_push (l : Log) (payload : String) :
    (l.push payload).entries = l.entries ++ [payload] := rfl

end Log

end EventFeed
