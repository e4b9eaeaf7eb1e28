import EventFeed.Http.Status
import EventFeed.Json.Printer
import EventFeed.Net.Uri
import EventFeed.System.OsError

/-!
# EventFeed.Error

Everything that can go wrong in the feed, its wording, and how the gateway
answers with it.  Each kind of error has a number of its own and an HTTP
status: errors of the request are 400, a broken transport is 502, and what
is nobody's fault outside is 500.
-/

namespace EventFeed

/-! ## The transport -/

/-- What breaks a WebSocket connection, or keeps one from being opened. -/
inductive TransportError where
  | connectionClosed
  | alreadyClosed
  | io (e : IoError)
  | protocol (reason : String)
  | http (status : Nat)
  | uri (e : UriError)
deriving Repr, DecidableEq

/-- The transport error in words. -/
def TransportError.message : TransportError → String
  | .connectionClosed => "Connection closed normally"
  | .alreadyClosed => "Trying to work with closed connection"
  | .io e => "IO error: " ++ e.message
  | .protocol reason => "WebSocket protocol error: " ++ reason
  | .http status => "HTTP error: " ++ Http.statusText status
  | .uri e => "HTTP format error: " ++ e.message

/-- The transport error and what lies behind it, from the outside in. -/
def TransportError.chain : TransportError → List String
  | .io e => [TransportError.message (.io e), e.message]
  | .protocol reason => [TransportError.message (.protocol reason), reason]
  | .uri e => [TransportError.message (.uri e), e.message]
  | e => [e.message]

/-! ## The feed -/

/-- An error of the feed. -/
inductive FeedError where
  | invalidRequest (detail : String)
  | invalidNamespace (path : String)
  | invalidEndpoint (detail : String)
  | internal (detail : String)
  | render (e : IoError)
  | transport (e : TransportError)
deriving Repr, DecidableEq

namespace FeedError

/-- The error in words. -/
def message : FeedError → String
  | .invalidRequest detail => "invalid request: " ++ detail
  | .invalidNamespace path => "invalid namespace: " ++ path
  | .invalidEndpoint detail => "invalid endpoint: " ++ detail
  | .internal detail => "internal error: " ++ detail
  | .render e => "render error: " ++ e.message
  | .transport e => "transport error: " ++ e.message

/-- The number of the kind of error. -/
def code : FeedError → Nat
  | .invalidRequest _ => 1001
  | .invalidNamespace _ => 1002
  | .invalidEndpoint _ => 1003
  | .internal _ => 3000
  | .render _ => 3001
  | .transport _ => 5001

/-- The HTTP status that answers the error. -/
def status : FeedError → Nat
  | .invalidRequest _ | .invalidNamespace _ | .invalidEndpoint _ => 400
  | .internal _ | .render _ => 500
  | .transport _ => 502

/-- The body of the answer: number and words. -/
def body (e : FeedError) : String :=
  Json.record [("error", .object [("code", .ofNat e.code), ("message", .string e.message)])]

/-- The error and what lies behind it, from the outside in. -/
def chain : FeedError → List String
  | .render e => [message (.render e), e.message]
  | .transport e => message (.transport e) :: e.chain
  | e => [e.message]

end FeedError

end EventFeed
