import EventFeed.Error
import EventFeed.Listener.Log
import EventFeed.Listener.Paragraphs
import EventFeed.Listener.Region

/-!
# EventFeed.Listener.Basic

A listener keeps a log of the payloads it has received and shows all of
them in its region.  A payload is in the log before it is shown, so one
whose showing failed is shown along with the next.
-/

namespace EventFeed

/-- A listener whose region works on states of type `σ`. -/
structure Listener (σ : Type) where
  region : Region σ
  log : Log

namespace Listener

variable {σ : Type}

/-- A listener that has received nothing. -/
def of (region : Region σ) : Listener σ := ⟨region, Log.empty⟩

/-- The payloads received, oldest first. -/
def messages (l : Listener σ) : List String := l.log.entries

/-- Receive a payload: log it, and show the whole log. -/
def handle (l : Listener σ) (payload : String) (s : σ) :
    Except FeedError Unit × Listener σ × σ :=
  let log := l.log.push payload
  let (shown, s) := l.region (paragraphs log.entries) s
  (shown.mapError .render, { l with log }, s)

/-- A payload is logged whether or not it could be shown. -/
@[simp] theorem messages_handle (l : Listener σ) (payload : String) (s : σ) :
    (l.handle payload s).2.1.messages = l.messages ++ [payload] := rfl

end Listener

end EventFeed
