import EventFeed.Bus.Basic
import EventFeed.Endpoint
import EventFeed.Environment.Dotenv
import EventFeed.Files.Path
import EventFeed.Net.SocketAddress

/-!
# EventFeed.Settings

The settings of the two programs, read from the environment.

| Variable | Setting | Unless it is set |
|---|---|---|
| `LISTEN_ADDR` | where the gateway listens | `0.0.0.0:5000` |
| `EVENT_BUS_CAPACITY` | how many events the bus keeps | 1024 |
| `FEED_HOST` | the host a listener connects to | `127.0.0.1` |
| `FEED_PORT` | its port | 5000 |
| `FEED_NAMESPACE` | the namespace to join | `/test` |
| `FEED_EVENT` | the event to wait for | `emailmsg` |
| `FEED_LOG_PATH` | the file to show payloads in | none |

A number that cannot be read counts as not set, and so does an empty event
or path.  An address, a host or a namespace that cannot be read is an
error.
-/

namespace EventFeed

/-- A number of at most `limit` that a variable holds, or the given one. -/
def Environment.number (e : Environment) (name : String) (limit unset : Nat) : Nat :=
  ((e.text? name).bind fun s => unsigned? limit s.toList).getD unset

/-! ## The gateway -/

/-- The settings of the gateway. -/
structure GatewaySettings where
  listenAddress : SocketAddress
  capacity : Nat
deriving Repr, DecidableEq, Inhabited

namespace GatewaySettings

/-- The address to listen on unless another one is set. -/
def standardAddress : String := "0.0.0.0:5000"

/-- The settings in an environment. -/
def ofEnvironment (e : Environment) : Except FeedError GatewaySettings :=
  let address := (e.text? "LISTEN_ADDR").getD standardAddress
  match SocketAddress.ofText? address.toList with
  | some a => .ok ⟨a, e.number "EVENT_BUS_CAPACITY" 0xffffffffffffffff 1024⟩
  | none => .error (.invalidEndpoint ("LISTEN_ADDR " ++ quoted address))

end GatewaySettings

/-! ## The listener -/

/-- The settings of a listener. -/
structure ListenerSettings where
  endpoint : Endpoint
  event : String
  logPath : Option (List UInt8)
deriving Repr, DecidableEq, Inhabited

namespace ListenerSettings

/-- The host to connect to unless another one is set. -/
def standardHost : String := "127.0.0.1"

/-- The namespace that is set. -/
def channelOf (e : Environment) : Except FeedError Namespace :=
  match e.text? "FEED_NAMESPACE" with
  | some path => Namespace.parse path
  | none => .ok Namespace.standard

/-- The event that is set. -/
def eventOf (e : Environment) : String :=
  match e.text? "FEED_EVENT" with
  | some name => if name = "" then Event.standardName else name
  | none => Event.standardName

/-- The path that is set. -/
def logPathOf (e : Environment) : Option (List UInt8) :=
  match e.bytes? "FEED_LOG_PATH" with
  | some path => if path = [] then none else some path
  | none => none

/-- The settings in an environment. -/
def ofEnvironment (e : Environment) : Except FeedError ListenerSettings := do
  let channel ← channelOf e
  let host := (e.text? "FEED_HOST").getD standardHost
  let endpoint ← Endpoint.of host (e.number "FEED_PORT" 65535 5000).toUInt16 channel
  return ⟨endpoint, eventOf e, logPathOf e⟩

end ListenerSettings

end EventFeed
