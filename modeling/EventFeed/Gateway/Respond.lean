import EventFeed.Gateway.Emit
import EventFeed.Gateway.Health
import EventFeed.Gateway.Upgrade

/-!
# EventFeed.Gateway.Respond

The answer to every request.  The path decides first: events are published
at one, health is told at another, and every other path of one segment is
a namespace to join.  Paths are compared as they were sent, before any
percent-encoding is undone.

Pages from anywhere may use the gateway, so every answer says so, and a
question what is allowed is answered for every path.
-/

namespace EventFeed

namespace Gateway

/-! ## Routes -/

/-- Where a path leads. -/
inductive Route where
  | emit
  | health
  | channel (segment : String)
deriving Repr, DecidableEq, Inhabited

namespace Route

/-- The route of a path. -/
def ofPath? (path : String) : Option Route :=
  if path = "/api/v1/emit" then some .emit
  else if path = "/health" then some .health
  else
    match path.toList with
    | '/' :: segment =>
      if segment ≠ [] ∧ '/' ∉ segment then some (.channel (String.ofList segment)) else none
    | _ => none

/-- The methods that a route knows. -/
def methods : Route → List String
  | .emit => ["POST"]
  | .health | .channel _ => ["GET", "HEAD"]

/-- The header that lists them. -/
def allow (r : Route) : String × String := ("allow", ",".intercalate r.methods)

end Route

/-! ## Other origins -/

/-- Headers of every answer: any origin may read it. -/
def originHeaders : List (String × String) := [
  ("access-control-allow-origin", "*"),
  ("vary", "origin, access-control-request-method, access-control-request-headers")]

/-- Headers of every answer but those about what is allowed. -/
def exposeHeaders : List (String × String) := [("access-control-expose-headers", "*")]

/-- Headers of an answer about what is allowed. -/
def preflightHeaders : List (String × String) := [
  ("access-control-allow-methods", "*"), ("access-control-allow-headers", "*")]

/-! ## Answers -/

/-- An answer: a response, or a connection that stays open for a
subscription. -/
inductive Answer where
  | response (r : Http.Response)
  | upgrade (s : Subscription)
deriving Repr, Inhabited

/-- The status of an answer. -/
def Answer.status : Answer → Nat
  | .response r => r.status
  | .upgrade _ => 101

/-- A response as it is sent: open to all origins, and without a body if
only its head was asked for. -/
def dress (method : String) (r : Http.Response) : Http.Response :=
  let r := r.withHeaders (originHeaders ++ exposeHeaders)
  if method = "HEAD" then r.withoutBody else r

/-- The answer to a question what is allowed. -/
def preflight (path : String) : Http.Response :=
  ⟨200, originHeaders ++ preflightHeaders ++ ((Route.ofPath? path).map Route.allow).toList, ""⟩

/-- The answer of a route to a request by one of its methods. -/
def follow (now : Timestamp) (upgradable : Bool) (b : Bus) (r : Http.Request) :
    Route → Bus × Answer
  | .emit =>
    let (b, response) := emit now b r
    (b, .response (dress r.method response))
  | .health => (b, .response (dress r.method (health now b)))
  | .channel segment =>
    match upgrade upgradable segment r with
    | .error response => (b, .response (dress r.method response))
    | .ok n =>
      let (b, s) := b.join n
      (b, .upgrade s)

/-- The answer to a request, and the bus after it.  `upgradable` tells
whether the connection it came on can become a WebSocket. -/
def respond (now : Timestamp) (upgradable : Bool) (b : Bus) (r : Http.Request) : Bus × Answer :=
  if r.method = "OPTIONS" then (b, .response (preflight r.path))
  else
    match Route.ofPath? r.path with
    | none => (b, .response (dress r.method (.empty 404)))
    | some route =>
      if r.method ∈ route.methods then follow now upgradable b r route
      else
        (b, .response (dress r.method ((Http.Response.empty 405).withHeaders [route.allow])))

end Gateway

end EventFeed
