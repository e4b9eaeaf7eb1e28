import EventFeed.Error
import EventFeed.Net.SocketAddress

/-!
# EventFeed.Net.Network

What lies between client and gateway.  A `Network` tells what is found at a
host and port, and what that answers when it is asked for a connection; it
also tells where a server may listen.  Connections carry frames, and how
frames are laid out in bytes is no concern of this library.
-/

namespace EventFeed

/-- A message on a connection. -/
inductive Frame where
  | text (s : String)
  | binary (bytes : List UInt8)
  | ping (bytes : List UInt8)
  | pong (bytes : List UInt8)
  | close
deriving Repr, DecidableEq, Inhabited

/-- What a client reads from a connection; the end of such a row is the end
of the connection. -/
inductive Received where
  | frame (f : Frame)
  | failed (e : TransportError)
deriving Repr, DecidableEq, Inhabited

/-- How a server answers when a connection is asked for. -/
inductive Greeting where
  /-- The connection is open; all that will come on it. -/
  | accepted (frames : List Received)
  /-- The server answers with another status. -/
  | rejected (status : Nat)
  /-- The server does not keep to the protocol. -/
  | broken (e : TransportError)
deriving Repr, DecidableEq, Inhabited

/-- What can be reached: for every host and port a server, which answers to
a path, or the reason why there is none; and for every address of this
host the reason, if there is one, why it cannot be listened on. -/
structure Network where
  connect : String → Nat → Except IoError (String → Greeting)
  listen : SocketAddress → Except IoError Unit

namespace Network

/-- A network without routes, where `taken` are the addresses that are
listened on already. -/
def isolated (taken : List SocketAddress) : Network where
  connect _ _ := .error .networkUnreachable
  listen address := if address ∈ taken then .error .addressInUse else .ok ()

end Network

end EventFeed
