import EventFeed.Endpoint
import EventFeed.Envelope.Reader
import EventFeed.Listener.Basic
import EventFeed.Net.Network

/-!
# EventFeed.Client.Basic

A client of the gateway.  It connects to an endpoint, which joins the
namespace of that endpoint, and reads the events that come.  Whatever is
not a text frame with the event asked for is passed over.
-/

namespace EventFeed

/-! ## The client -/

/-- A client: where it is connected to, and what it has not read yet. -/
structure Client where
  endpoint : Endpoint
  unread : List Received
deriving Repr, Inhabited

namespace Client

/-- The path and query that a URI asks a server for. -/
def requestPath (u : Uri) : String :=
  String.ofList (u.path ++ match u.query with
    | some q => '?' :: q
    | none => [])

/-- Open the connection that a URI asks for. -/
def openUri (net : Network) (u : Uri) : Except TransportError (List Received) := do
  let server ← (net.connect (String.ofList u.address) (u.port.getD 80)).mapError .io
  match server (requestPath u) with
  | .accepted frames => return frames
  | .rejected status => .error (.http status)
  | .broken e => .error e

/-- Connect to an endpoint. -/
def connect (net : Network) (e : Endpoint) : Except FeedError Client :=
  match Uri.ofText? e.url.toList with
  | .error f => .error (.transport (.uri f))
  | .ok u =>
    match openUri net u with
    | .error f => .error (.transport f)
    | .ok unread => .ok ⟨e, unread⟩

/-- The client as a message shows it. -/
def describe (c : Client) : String :=
  "FeedClient \x7b endpoint: Endpoint \x7b host: " ++ quoted c.endpoint.host ++ ", port: " ++
    String.ofList (Nat.toDigits 10 c.endpoint.port.toNat) ++ ", namespace: Namespace(" ++
    quoted c.endpoint.channel.path ++ ") \x7d, .. \x7d"

/-! ## Reading -/

/-- The payload of the first event `name` in a row of frames, and what is
left behind it.  Nothing comes behind a close frame or a failure. -/
def nextIn (name : String) : List Received → Except FeedError (Option String) × List Received
  | [] => (.ok none, [])
  | .frame (.text s) :: rest =>
    match Envelope.decodeEvent s name with
    | some payload => (.ok (some payload), rest)
    | none => nextIn name rest
  | .frame .close :: _ => (.ok none, [])
  | .frame (.binary _) :: rest | .frame (.ping _) :: rest | .frame (.pong _) :: rest =>
    nextIn name rest
  | .failed e :: _ => (.error (.transport e), [])

/-- Wait for the next event `name`, and take its payload; nothing if the
connection is closed. -/
def nextEvent (c : Client) (name : String) : Except FeedError (Option String) × Client :=
  let (got, unread) := nextIn name c.unread
  (got, { c with unread })

/-- Hand up to `fuel` payloads to a listener; see `listen`. -/
def listenFor {σ : Type} (name : String) :
    Nat → Client → Listener σ → σ → Except FeedError Unit × Client × Listener σ × σ
  | 0, c, l, s => (.ok (), c, l, s)
  | fuel + 1, c, l, s =>
    match c.nextEvent name with
    | (.error e, c) => (.error e, c, l, s)
    | (.ok none, c) => (.ok (), c, l, s)
    | (.ok (some payload), c) =>
      match l.handle payload s with
      | (.error e, l, s) => (.error e, c, l, s)
      | (.ok _, l, s) => listenFor name fuel c l s

/-- Hand every payload of the event `name` to a listener, until the
connection is closed, it fails, or the listener cannot show a payload.
Each payload takes a frame, so there are no more of them than frames. -/
def listen {σ : Type} (c : Client) (name : String) (l : Listener σ) (s : σ) :
    Except FeedError Unit × Client × Listener σ × σ :=
  listenFor name (c.unread.length + 1) c l s

/-! ## Laws -/

/-- A payload takes at least one frame. -/
theorem length_nextIn {name payload : String} {frames rest : List Received}
    (h : nextIn name frames = (.ok (some payload), rest)) : rest.length < frames.length := by
  induction frames with
  | nil => simp [nextIn] at h
  | cons f frames ih =>
    unfold nextIn at h
    split at h
    · cases h
    · next hf =>
      cases hf
      split at h
      · cases h
        simp
      · have := ih h
        simp only [List.length_cons]
        omega
    · cases h
    · next hf =>
      cases hf
      have := ih h
      simp only [List.length_cons]
      omega
    · next hf =>
      cases hf
      have := ih h
      simp only [List.length_cons]
      omega
    · next hf =>
      cases hf
      have := ih h
      simp only [List.length_cons]
      omega
    · cases h

end Client

end EventFeed
