import EventFeed.Namespace
import EventFeed.Net.Ip
import EventFeed.Text.Blank

/-!
# EventFeed.Endpoint

Where a listener connects to: a host, a port, and the namespace it joins.
The host is a name or an address.  An IPv6 address may be given in
brackets; it is kept without them, and shows with them in the URL.

A host is refused if it is empty, if it has a blank, a slash or a bracket
in it, or if it has a colon without being an IPv6 address.  Nothing else
is checked.
-/

namespace EventFeed

/-- Where a listener connects to. -/
structure Endpoint where
  host : String
  port : UInt16
  channel : Namespace
deriving Repr, DecidableEq, Inhabited

namespace Endpoint

/-- The text between an opening bracket at its front and a closing one at
its end; the whole text unless it has both. -/
def withoutBrackets (s : List Char) : List Char :=
  match s with
  | '[' :: r => if r.getLast? = some ']' then r.dropLast else s
  | s => s

/-- The characters that no host has. -/
def isForbidden (c : Char) : Bool := isBlank c || c == '/' || c == '[' || c == ']'

/-- The hosts that are accepted: not empty, without forbidden characters,
and an IPv6 address if there is a colon. -/
def IsHost (s : List Char) : Prop :=
  s ≠ [] ∧ s.all (fun c => !isForbidden c) ∧ (':' ∈ s → (Ipv6.ofText? s).isSome)

instance (s : List Char) : Decidable (IsHost s) := inferInstanceAs (Decidable (_ ∧ _ ∧ _))

/-- The endpoint at a host that may stand in brackets. -/
def of (host : String) (port : UInt16) (channel : Namespace) : Except FeedError Endpoint :=
  let bare := withoutBrackets host.toList
  if IsHost bare then .ok ⟨String.ofList bare, port, channel⟩
  else .error (.invalidEndpoint ("bad host " ++ quoted (String.ofList bare)))

/-- The host as it stands in a URL: in brackets if it has a colon. -/
def authorityHost (e : Endpoint) : String :=
  if ':' ∈ e.host.toList then "[" ++ e.host ++ "]" else e.host

/-- The URL of the endpoint. -/
def url (e : Endpoint) : String :=
  "ws://" ++ e.authorityHost ++ ":" ++ String.ofList (Nat.toDigits 10 e.port.toNat) ++
    e.channel.path

/-- The characters of the URL: host and port, and the path of the namespace. -/
theorem toList_url (e : Endpoint) : e.url.toList = "ws://".toList ++
    ((e.authorityHost.toList ++ ':' :: Nat.toDigits 10 e.port.toNat) ++
      '/' :: e.channel.segment.toList) := by
  simp [url, Namespace.path]

end Endpoint

end EventFeed
