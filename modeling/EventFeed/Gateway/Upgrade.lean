import EventFeed.Bus.Basic
import EventFeed.Error
import EventFeed.Gateway.Emit
import EventFeed.Http.Percent

/-!
# EventFeed.Gateway.Upgrade

Opening a connection.  A request for a namespace must ask for a WebSocket
by its headers, and the connection it came on must allow the change.  Only
then the segment of the path is looked at: percent-encoded, it must spell a
namespace.  The subscription begins before the answer is sent.
-/

namespace EventFeed

namespace Gateway

/-- Does the request ask for a WebSocket, on a connection that can become
one? -/
def checkUpgrade (upgradable : Bool) (r : Http.Request) : Except Http.Response Unit :=
  if r.method ≠ "GET" then .error (.plain 405 "Request method must be `GET`")
  else if !r.headerContains "connection" "upgrade" then
    .error (.plain 400 "Connection header did not include 'upgrade'")
  else if !r.headerIs "upgrade" "websocket" then
    .error (.plain 400 "`Upgrade` header did not include 'websocket'")
  else if (r.header? "sec-websocket-key").isNone then
    .error (.plain 400 "`Sec-WebSocket-Key` header missing")
  else if !r.headerIs "sec-websocket-version" "13" then
    .error (.plain 400 "`Sec-WebSocket-Version` header did not include '13'")
  else if !upgradable then
    .error (.plain 426 "WebSocket request couldn't be upgraded since no upgrade state was present")
  else .ok ()

/-- The namespace that a segment of a path spells. -/
def channelOf (segment : String) : Except Http.Response Namespace :=
  match Http.percentDecode? segment with
  | none => .error (.plain 400 "Invalid URL: Invalid UTF-8 in `namespace`")
  | some s => (Namespace.ofSegment s).mapError FeedError.response

/-- The namespace that the request may join. -/
def upgrade (upgradable : Bool) (segment : String) (r : Http.Request) :
    Except Http.Response Namespace := do
  checkUpgrade upgradable r
  channelOf segment

end Gateway

end EventFeed
