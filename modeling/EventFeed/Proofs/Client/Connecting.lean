import EventFeed.Client.Basic
import EventFeed.Proofs.Endpoint.Url
import EventFeed.Proofs.Json.Ordered

/-!
# EventFeed.Proofs.Client.Connecting

Where a client connects to, and what it asks for there.

A client reads the URL of its endpoint, and goes where this leads.  So it asks for the
path of its namespace (`Client.requestPath_of_url`), and what it gets depends on nothing
but the answer to this path at the host and port of the endpoint, unless the host
divides the URL (`Client.destination`).  Such a host is not what is connected to:
with an `@` in it, the client goes to what stands behind that, and with a question mark
or a number sign it asks for no namespace (`Client.destination_astray`).
-/

namespace EventFeed

/-! ## Answers -/

/-- What is answered to a path at a host and port. -/
def Network.answer (net : Network) (host : String) (port : Nat) (path : String) :
    Except IoError Greeting :=
  (net.connect host port).map fun server => server path

/-- What comes of a greeting: a connection with all that will come on it, or a failure. -/
def Greeting.opened : Greeting → Except TransportError (List Received)
  | .accepted frames => .ok frames
  | .rejected status => .error (.http status)
  | .broken e => .error e

/-- A network where one server is found, which keeps one path open and silent. -/
def Network.serving (host : String) (port : Nat) (path : String) : Network where
  connect host' port' :=
    if host' = host ∧ port' = port then
      .ok fun path' => if path' = path then .accepted [] else .rejected 404
    else .error .networkUnreachable
  listen _ := .ok ()

namespace Client

variable {e : Endpoint} {u : Uri} {net net' : Network} {c : Client} {host : String} {port : UInt16}
  {n : Namespace}

/-- **A client asks for the path of its namespace.** -/
theorem requestPath_of_url (hread : Uri.ofText? e.url.toList = .ok u)
    (hhost : ∀ c ∈ e.host.toList, Uri.endsAuthority c = false) :
    requestPath u = e.channel.path := by
  obtain ⟨-, -, htarget⟩ := Endpoint.divided_location hhost
  obtain ⟨-, -, rfl⟩ := (Uri.ofText?_eq_ok_iff (Endpoint.splitScheme?_url e)).1 hread
  rw [requestPath, Uri.ofParts, htarget]
  simp [Namespace.path]

/-! ## Destinations -/

/-- A URI that leads where the endpoint says opens what is found there. -/
theorem openUri_of_denotes (h : u.Denotes e) (net : Network) :
    openUri net u =
      (net.answer e.host e.port.toNat e.channel.path).mapError .io >>= Greeting.opened := by
  have hpath : requestPath u = e.channel.path := by
    rw [requestPath, h.query, List.append_nil, h.path]
  rw [openUri, h.address, h.port, hpath, String.ofList_toList, Option.getD_some, Network.answer]
  cases net.connect e.host e.port.toNat with
  | error f => rfl
  | ok server =>
    simp only [Except.map, Except.mapError, bind, Except.bind]
    cases server e.channel.path with
    | accepted frames => rfl
    | rejected status => rfl
    | broken f => rfl

/-- A client that reads such a URI is connected if and only if that is opened. -/
theorem connect_eq_ok_iff (hread : Uri.ofText? e.url.toList = .ok u) (h : u.Denotes e) :
    connect net e = .ok c ↔
      net.answer e.host e.port.toNat e.channel.path = .ok (.accepted c.unread) ∧
        c.endpoint = e := by
  obtain ⟨endpoint, unread⟩ := c
  simp only [connect, hread, openUri_of_denotes h]
  cases net.answer e.host e.port.toNat e.channel.path with
  | error f => simp [Except.mapError, bind, Except.bind]
  | ok greeting =>
    cases greeting with
    | accepted frames =>
      simp [Except.mapError, bind, Except.bind, Greeting.opened, and_comm, eq_comm]
    | rejected status => simp [Except.mapError, bind, Except.bind, Greeting.opened]
    | broken f => simp [Except.mapError, bind, Except.bind, Greeting.opened]

/-- If the answers to it are alike, so is what it makes of them. -/
theorem connect_congr (hread : Uri.ofText? e.url.toList = .ok u) (h : u.Denotes e)
    (hsame : net'.answer e.host e.port.toNat e.channel.path =
      net.answer e.host e.port.toNat e.channel.path) : connect net' e = connect net e := by
  simp only [connect, hread, openUri_of_denotes h, hsame]

/-- A client that cannot read its URL is not connected, whatever the network. -/
theorem connect_of_error {f : UriError} (hread : Uri.ofText? e.url.toList = .error f) :
    connect net e = .error (.transport (.uri f)) := by
  rw [connect, hread]

/-- **A client goes where its endpoint says.**

The URL of an endpoint, if it can be read, leads to the host and port of the endpoint
and to the path of its namespace and says nothing else, if and only if the host has no
`@`, `?` or `#`.  It can be read so if and only if the host has characters of hosts
only, and the URL is not too long.

If the host has none of the three, a client of the endpoint is connected if and only if
the URL can be read and the namespace is accepted at the host and port, and then to
that; and nothing else that is found in the network makes a difference. -/
theorem destination (h : Endpoint.of host port n = .ok e) :
    (∀ u, Uri.ofText? e.url.toList = .ok u →
      (u.Denotes e ↔ '@' ∉ e.host.toList ∧ '?' ∉ e.host.toList ∧ '#' ∉ e.host.toList)) ∧
    ((∃ u, Uri.ofText? e.url.toList = .ok u ∧ u.Denotes e) ↔
      (∀ c ∈ e.host.toList, Uri.isHostChar c = true) ∧ e.url.utf8ByteSize ≤ 65534) ∧
    ('@' ∉ e.host.toList ∧ '?' ∉ e.host.toList ∧ '#' ∉ e.host.toList → ∀ net : Network,
      (∀ c, connect net e = .ok c ↔
        ((∀ c ∈ e.host.toList, Uri.isHostChar c = true) ∧ e.url.utf8ByteSize ≤ 65534) ∧
        net.answer e.host e.port.toNat e.channel.path = .ok (.accepted c.unread) ∧
        c.endpoint = e) ∧
      ∀ net' : Network, net'.answer e.host e.port.toNat e.channel.path =
        net.answer e.host e.port.toNat e.channel.path → connect net' e = connect net e) := by
  have hhost := Endpoint.isHostText_of h
  refine ⟨fun u hread => Endpoint.denotes_iff hhost hread, Endpoint.exists_denotes_iff hhost,
    fun hundivided net => ?_⟩
  cases hread : Uri.ofText? e.url.toList with
  | error f =>
    refine ⟨fun c => ?_, fun net' _ => by rw [connect_of_error hread, connect_of_error hread]⟩
    rw [connect_of_error hread, ← Endpoint.exists_denotes_iff hhost, hread]
    simp
  | ok u =>
    have hdenotes : u.Denotes e := (Endpoint.denotes_iff hhost hread).2 hundivided
    refine ⟨fun c => ?_, fun net' hsame => connect_congr hread hdenotes hsame⟩
    have hreadable := (Endpoint.exists_denotes_iff hhost).1 ⟨u, hread, hdenotes⟩
    rw [connect_eq_ok_iff hread hdenotes, and_iff_right hreadable]

/-- The loopback address is connected to as it is named. -/
theorem destination_of_loopback :
    Endpoint.of "[::1]" 5000 .standard = .ok ⟨"::1", 5000, .standard⟩ ∧
      connect (.serving "::1" 5000 "/test") ⟨"::1", 5000, .standard⟩ =
        .ok ⟨⟨"::1", 5000, .standard⟩, []⟩ := by
  have haccepted : Endpoint.of "[::1]" 5000 .standard = .ok ⟨"::1", 5000, .standard⟩ := by
    decide +kernel
  obtain ⟨-, -, hconnect⟩ := destination haccepted
  obtain ⟨hconnected, -⟩ := hconnect (by decide) (.serving "::1" 5000 "/test")
  have hchars : "::1".toList.all Uri.isHostChar = true := by decide
  exact ⟨haccepted, (hconnected _).2 ⟨⟨List.all_eq_true.1 hchars, by decide⟩, rfl, rfl⟩⟩

/-- A host with an `@` in it is accepted, but the client goes to the host behind that;
and with a question mark it goes to another port and asks for another path. -/
theorem destination_astray :
    (∃ e, Endpoint.of "feed@other" 5000 .standard = .ok e ∧
      (¬ ∃ u, Uri.ofText? e.url.toList = .ok u ∧ u.Denotes e) ∧
      connect (.serving "other" 5000 "/test") e = .ok ⟨e, []⟩) ∧
    ∃ e, Endpoint.of "other?feed" 5000 .standard = .ok e ∧
      (¬ ∃ u, Uri.ofText? e.url.toList = .ok u ∧ u.Denotes e) ∧
      connect (.serving "other" 80 "/?feed:5000/test") e = .ok ⟨e, []⟩ := by
  have hat : Endpoint.of "feed@other" 5000 .standard = .ok ⟨"feed@other", 5000, .standard⟩ := by
    decide +kernel
  have hquestion : Endpoint.of "other?feed" 5000 .standard =
      .ok ⟨"other?feed", 5000, .standard⟩ := by
    decide +kernel
  refine ⟨⟨_, hat, ?_, rfl⟩, _, hquestion, ?_, rfl⟩
  · rw [Endpoint.exists_denotes_iff (Endpoint.isHostText_of hat)]
    rintro ⟨hchars, -⟩
    exact absurd (hchars '@' (by decide)) (by decide)
  · rw [Endpoint.exists_denotes_iff (Endpoint.isHostText_of hquestion)]
    rintro ⟨hchars, -⟩
    exact absurd (hchars '?' (by decide)) (by decide)

end Client

end EventFeed
