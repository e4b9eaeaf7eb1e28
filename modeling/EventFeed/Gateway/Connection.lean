import EventFeed.Bus.Basic
import EventFeed.Envelope.Reader
import EventFeed.Net.Network

/-!
# EventFeed.Gateway.Connection

One open connection.  Its task waits for two things at once, a message of
the client and an event of the bus, and takes whichever comes.

* An event goes to the client in an envelope.
* A text of the client is answered by an error, because clients cannot
  publish here; the error repeats the identifier of the text if it has one.
* A report of lost events, and messages of other kinds, do nothing.
* The connection ends when the client closes it or cannot be read, when the
  bus is closed, or when something cannot be sent.
-/

namespace EventFeed

/-- What a task gets when it reads from a connection. -/
inductive Incoming where
  | frame (f : Frame)
  | failed
  | ended
deriving Repr, DecidableEq, Inhabited

/-- What comes anew at each moment: the time, and an identifier that was
never used. -/
structure Fresh where
  now : Timestamp
  id : Uuid
deriving Repr, Inhabited

namespace Gateway

/-! ## Single steps -/

/-- What a task has to deal with next. -/
inductive Stimulus where
  | ofClient (m : Incoming)
  | ofBus (got : Reception Event)
deriving Repr, Inhabited

/-- What a task does about it. -/
inductive Reaction where
  | send (text : String)
  | nothing
  | finish
deriving Repr, DecidableEq, Inhabited

/-- The answer to a text of a client. -/
def replyTo (now : Timestamp) (text : String) : Envelope :=
  match Envelope.ofText text with
  | .ok m => Envelope.refusal now m.id 405 "namespace is publish-only"
  | .error _ => Envelope.refusal now "" 400 "malformed JSON"

/-- What a task does about a message of its client or of the bus. -/
def react (fresh : Fresh) : Stimulus → Reaction
  | .ofClient (.frame (.text s)) => .send (replyTo fresh.now s).text
  | .ofClient (.frame .close) | .ofClient .failed | .ofClient .ended => .finish
  | .ofClient (.frame (.binary _)) | .ofClient (.frame (.ping _))
  | .ofClient (.frame (.pong _)) => .nothing
  | .ofBus (.item e) => .send (Envelope.ofEvent fresh.id e).text
  | .ofBus (.lagged _) | .ofBus .pending => .nothing
  | .ofBus .closed => .finish

/-! ## The whole task -/

/-- One turn of a task: what it has to deal with, what is new at that
moment, and whether something can be sent then. -/
structure Turn where
  stimulus : Stimulus
  fresh : Fresh
  sendable : Bool
deriving Repr, Inhabited

/-- The texts that a task sends in the turns, and the turns it did not take
because it had ended. -/
def runTask : List Turn → List String × List Turn
  | [] => ([], [])
  | t :: ts =>
    match react t.fresh t.stimulus with
    | .finish => ([], ts)
    | .nothing => runTask ts
    | .send text =>
      if t.sendable then
        let (sent, rest) := runTask ts
        (text :: sent, rest)
      else ([], ts)

end Gateway

end EventFeed
