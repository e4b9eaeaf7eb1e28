import EventFeed.Proofs.Endpoint.Normalisation
import EventFeed.Proofs.Json.Ordered
import EventFeed.Settings

/-!
# EventFeed.Proofs.Settings.Fields

Which settings a listener gets, and from which variables.

Only two variables can be wrong: the namespace, which is looked at first, and the host.
Whether a host is refused does not depend on anything else (`Endpoint.of_cases`), so what
the other variables hold never makes a difference to that
(`ListenerSettings.ofEnvironment_cases`).  If neither is wrong, each setting is what its
own variable says (`ListenerSettings.SetBy`), so environments with the same value of one
variable give the same setting (`ListenerSettings.outcome`).
-/

namespace EventFeed

/-! ## Numbers that are set -/

/-- **A number that is set** counts if it is a numeral within the limit; else the given
one does. -/
theorem Environment.number_cases (e : Environment) (name : String) (limit unset : Nat) :
    (∃ s n, e.text? name = some s ∧ IsUnsigned s.toList n ∧ n ≤ limit ∧
      e.number name limit unset = n) ∨
    ((∀ s n, e.text? name = some s → IsUnsigned s.toList n → limit < n) ∧
      e.number name limit unset = unset) := by
  cases hread : (e.text? name).bind fun s => unsigned? limit s.toList with
  | some n =>
    obtain ⟨s, hs, hn⟩ := Option.bind_eq_some_iff.1 hread
    obtain ⟨hnumeral, hlimit⟩ := unsigned?_eq_some_iff.1 hn
    exact .inl ⟨s, n, hs, hnumeral, hlimit, by rw [number, hread]; rfl⟩
  | none =>
    refine .inr ⟨fun s n hs hnumeral => ?_, by rw [number, hread]; rfl⟩
    by_contra hlimit
    have hn : unsigned? limit s.toList = some n :=
      unsigned?_eq_some_iff.2 ⟨hnumeral, Nat.not_lt.1 hlimit⟩
    rw [hs, Option.bind_some, hn] at hread
    cases hread

/-! ## Hosts -/

/-- **A host is refused for itself**: the port and the namespace make no difference. -/
theorem Endpoint.of_cases (host : String) :
    (∀ port n, of host port n =
      .ok ⟨String.ofList (withoutBrackets host.toList), port, n⟩) ∨
    ∃ m, ∀ port n, of host port n = .error (.invalidEndpoint m) := by
  by_cases h : IsHost (withoutBrackets host.toList)
  · exact .inl fun port n => if_pos h
  · exact .inr ⟨_, fun port n => if_neg h⟩

namespace ListenerSettings

variable {e f : Environment} {settings others : ListenerSettings}

/-! ## One variable for each field -/

/-- The settings are those that the variables say, each by its own. -/
structure SetBy (settings : ListenerSettings) (e : Environment) : Prop where
  channel : channelOf e = .ok settings.endpoint.channel
  host : settings.endpoint.host = String.ofList
    (Endpoint.withoutBrackets ((e.text? "FEED_HOST").getD standardHost).toList)
  port : settings.endpoint.port = (e.number "FEED_PORT" 65535 5000).toUInt16
  event : settings.event = eventOf e
  logPath : settings.logPath = logPathOf e

/-- The port is a number that is set, if that fits sixteen bits. -/
theorem SetBy.port_of_isUnsigned (h : settings.SetBy e) {s : String} {n : Nat}
    (hs : e.text? "FEED_PORT" = some s) (hn : IsUnsigned s.toList n) (hle : n ≤ 65535) :
    settings.endpoint.port.toNat = n := by
  rw [h.port]
  rcases e.number_cases "FEED_PORT" 65535 5000 with ⟨s', n', hs', hn', -, hnumber⟩ | ⟨hunset, -⟩
  · obtain rfl := Option.some.inj (hs.symm.trans hs')
    rw [hnumber, ← hn.unique hn']
    exact UInt16.toNat_ofNat_of_lt' (Nat.lt_succ_of_le hle)
  · exact absurd hle (Nat.not_le.2 (hunset s n hs hn))

/-- Else it is the one that counts unless another is set. -/
theorem SetBy.port_of_forall (h : settings.SetBy e) (hunset : ¬ ∃ s n,
    e.text? "FEED_PORT" = some s ∧ IsUnsigned s.toList n ∧ n ≤ 65535) :
    settings.endpoint.port = 5000 := by
  rw [h.port]
  rcases e.number_cases "FEED_PORT" 65535 5000 with ⟨s, n, hs, hn, hle, -⟩ | ⟨-, hnumber⟩
  · exact absurd ⟨s, n, hs, hn, hle⟩ hunset
  · rw [hnumber]
    rfl

theorem channelOf_congr (h : f.bytes? "FEED_NAMESPACE" = e.bytes? "FEED_NAMESPACE") :
    channelOf f = channelOf e := by
  rw [channelOf, channelOf, Environment.text?, Environment.text?, h]

/-- **Each field depends on its own variable** and on no other one. -/
theorem SetBy.congr (h : settings.SetBy e) (h' : others.SetBy f) :
    (f.bytes? "FEED_HOST" = e.bytes? "FEED_HOST" →
      others.endpoint.host = settings.endpoint.host) ∧
    (f.bytes? "FEED_PORT" = e.bytes? "FEED_PORT" →
      others.endpoint.port = settings.endpoint.port) ∧
    (f.bytes? "FEED_NAMESPACE" = e.bytes? "FEED_NAMESPACE" →
      others.endpoint.channel = settings.endpoint.channel) ∧
    (f.bytes? "FEED_EVENT" = e.bytes? "FEED_EVENT" → others.event = settings.event) ∧
    (f.bytes? "FEED_LOG_PATH" = e.bytes? "FEED_LOG_PATH" →
      others.logPath = settings.logPath) := by
  refine ⟨fun hsame => ?_, fun hsame => ?_, fun hsame => ?_, fun hsame => ?_, fun hsame => ?_⟩
  · rw [h'.host, h.host, Environment.text?, Environment.text?, hsame]
  · rw [h'.port, h.port, Environment.number, Environment.number, Environment.text?,
      Environment.text?, hsame]
  · exact Except.ok.inj (h'.channel.symm.trans ((channelOf_congr hsame).trans h.channel))
  · rw [h'.event, h.event, eventOf, eventOf, Environment.text?, Environment.text?, hsame]
  · rw [h'.logPath, h.logPath, logPathOf, logPathOf, hsame]

/-! ## What can be wrong -/

/-- The namespace is wrong if one is set that is no path. -/
theorem channelOf_cases (e : Environment) :
    (∃ path, e.text? "FEED_NAMESPACE" = some path ∧ ¬ Namespace.IsPath path ∧
      channelOf e = .error (.invalidNamespace path)) ∨
    (∀ path, e.text? "FEED_NAMESPACE" = some path → Namespace.IsPath path) ∧
      ∃ n, channelOf e = .ok n := by
  rw [channelOf]
  cases e.text? "FEED_NAMESPACE" with
  | none => exact .inr ⟨by rintro path ⟨⟩, _, rfl⟩
  | some path =>
    by_cases hpath : Namespace.IsPath path
    · obtain ⟨n, hn⟩ := Namespace.isPath_iff.1 hpath
      exact .inr ⟨fun path' h => Option.some.inj h ▸ hpath, n, Namespace.parse_eq_ok_iff.2 hn⟩
    · refine .inl ⟨path, rfl, hpath, Namespace.parse_of_astray fun n hn => hpath ?_⟩
      exact Namespace.isPath_iff.2 ⟨n, hn⟩

/-- The host to connect to unless another one is set is accepted. -/
theorem of_standardHost (port : UInt16) (n : Namespace) :
    ∃ endpoint, Endpoint.of standardHost port n = .ok endpoint := by
  have hhost : Endpoint.IsHost (Endpoint.withoutBrackets standardHost.toList) := by
    decide +kernel
  rw [Endpoint.of, if_pos hhost]
  exact ⟨_, rfl⟩

/-- **What comes of an environment**: the namespace is wrong, or it is not and the host
is, or neither is and the settings are what the variables say. -/
theorem ofEnvironment_cases (e : Environment) :
    (∃ path, e.text? "FEED_NAMESPACE" = some path ∧ ¬ Namespace.IsPath path ∧
      ofEnvironment e = .error (.invalidNamespace path)) ∨
    (∀ path, e.text? "FEED_NAMESPACE" = some path → Namespace.IsPath path) ∧
      ((∃ host m, e.text? "FEED_HOST" = some host ∧
        (∀ port n, Endpoint.of host port n = .error (.invalidEndpoint m)) ∧
        ofEnvironment e = .error (.invalidEndpoint m)) ∨
      (∀ host, e.text? "FEED_HOST" = some host →
        ∀ port n, ∃ endpoint, Endpoint.of host port n = .ok endpoint) ∧
        ∃ settings, ofEnvironment e = .ok settings ∧ settings.SetBy e) := by
  rcases channelOf_cases e with ⟨path, hset, hpath, hchannel⟩ | ⟨hpath, n, hchannel⟩
  · exact .inl ⟨path, hset, hpath, by rw [ofEnvironment, hchannel]; rfl⟩
  refine .inr ⟨hpath, ?_⟩
  rcases Endpoint.of_cases ((e.text? "FEED_HOST").getD standardHost) with hhost | ⟨m, hhost⟩
  · refine .inr ⟨fun host hset port n => ?_, ⟨⟨_, _, n⟩, eventOf e, logPathOf e⟩, ?_,
      ⟨hchannel, rfl, rfl, rfl, rfl⟩⟩
    · rw [hset] at hhost
      exact ⟨_, hhost port n⟩
    · rw [ofEnvironment, hchannel]
      simp only [bind, Except.bind, hhost]
      rfl
  · refine .inl ?_
    cases hset : e.text? "FEED_HOST" with
    | none =>
      rw [hset] at hhost
      obtain ⟨endpoint, haccepted⟩ := of_standardHost 0 n
      cases haccepted.symm.trans (hhost 0 n)
    | some host =>
      rw [hset] at hhost
      refine ⟨host, m, rfl, hhost, ?_⟩
      rw [ofEnvironment, hchannel, hset]
      simp only [bind, Except.bind, hhost]

/-- Settings that are accepted are what the variables say. -/
theorem setBy_of_ofEnvironment (h : ofEnvironment e = .ok settings) : settings.SetBy e := by
  rcases ofEnvironment_cases e with ⟨_, -, -, herror⟩ | ⟨-, ⟨_, _, -, -, herror⟩ | ⟨-, s, hok, hs⟩⟩
  · cases h.symm.trans herror
  · cases h.symm.trans herror
  · rwa [Except.ok.inj (h.symm.trans hok)]

/-- What is wrong depends on the namespace and the host only. -/
theorem ofEnvironment_eq_error_congr
    (hchannel : f.bytes? "FEED_NAMESPACE" = e.bytes? "FEED_NAMESPACE")
    (hhost : f.bytes? "FEED_HOST" = e.bytes? "FEED_HOST") (err : FeedError) :
    ofEnvironment f = .error err ↔ ofEnvironment e = .error err := by
  have htext : f.text? "FEED_HOST" = e.text? "FEED_HOST" := by
    rw [Environment.text?, Environment.text?, hhost]
  rw [ofEnvironment, ofEnvironment, channelOf_congr hchannel, htext]
  cases channelOf e with
  | error err' => exact Iff.rfl
  | ok n =>
    simp only [bind, Except.bind]
    rcases Endpoint.of_cases ((e.text? "FEED_HOST").getD standardHost) with hhost | ⟨m, hhost⟩
    · simp [hhost, pure, Except.pure]
    · simp [hhost]

/-- **The namespace is refused** if and only if one is set that is no path. -/
theorem invalidNamespace_iff : (∃ m, ofEnvironment e = .error (.invalidNamespace m)) ↔
    ∃ path, e.text? "FEED_NAMESPACE" = some path ∧ ¬ Namespace.IsPath path := by
  rcases ofEnvironment_cases e with ⟨path, hset, hpath, herror⟩ | ⟨hpath, houtcome⟩
  · exact iff_of_true ⟨path, herror⟩ ⟨path, hset, hpath⟩
  · refine iff_of_false ?_ fun ⟨path, hset, hno⟩ => hno (hpath path hset)
    rintro ⟨m, herror⟩
    rcases houtcome with ⟨_, _, -, -, hhost⟩ | ⟨-, _, hok, -⟩
    · cases herror.symm.trans hhost
    · cases herror.symm.trans hok

/-- **The host is refused** if and only if the namespace is not, and a host is set that no
endpoint can have. -/
theorem invalidEndpoint_iff : (∃ m, ofEnvironment e = .error (.invalidEndpoint m)) ↔
    (∀ path, e.text? "FEED_NAMESPACE" = some path → Namespace.IsPath path) ∧
    ∃ host, e.text? "FEED_HOST" = some host ∧
      ∃ m, ∀ port n, Endpoint.of host port n = .error (.invalidEndpoint m) := by
  rcases ofEnvironment_cases e with ⟨path, hset, hpath, herror⟩ | ⟨hpath, houtcome⟩
  · refine iff_of_false ?_ fun h => hpath (h.1 path hset)
    rintro ⟨m, hhost⟩
    cases herror.symm.trans hhost
  rcases houtcome with ⟨host, m, hset, hhost, herror⟩ | ⟨hhost, settings, hok, -⟩
  · exact iff_of_true ⟨m, herror⟩ ⟨hpath, host, hset, m, hhost⟩
  · refine iff_of_false ?_ ?_
    · rintro ⟨m, herror⟩
      cases herror.symm.trans hok
    · rintro ⟨-, host, hset, m, hrefused⟩
      obtain ⟨endpoint, haccepted⟩ := hhost host hset 0 .standard
      cases haccepted.symm.trans (hrefused 0 .standard)

/-- **There are settings** if and only if neither is. -/
theorem exists_ofEnvironment_iff : (∃ settings, ofEnvironment e = .ok settings) ↔
    (∀ path, e.text? "FEED_NAMESPACE" = some path → Namespace.IsPath path) ∧
    ∀ host, e.text? "FEED_HOST" = some host →
      ∀ port n, ∃ endpoint, Endpoint.of host port n = .ok endpoint := by
  rcases ofEnvironment_cases e with ⟨path, hset, hpath, herror⟩ | ⟨hpath, houtcome⟩
  · refine iff_of_false ?_ fun h => hpath (h.1 path hset)
    rintro ⟨settings, hok⟩
    cases herror.symm.trans hok
  rcases houtcome with ⟨host, m, hset, hrefused, herror⟩ | ⟨hhost, settings, hok, -⟩
  · refine iff_of_false ?_ ?_
    · rintro ⟨settings, hok⟩
      cases herror.symm.trans hok
    · rintro ⟨-, hhost⟩
      obtain ⟨endpoint, haccepted⟩ := hhost host hset 0 .standard
      cases haccepted.symm.trans (hrefused 0 .standard)
  · exact iff_of_true ⟨settings, hok⟩ ⟨hpath, hhost⟩

/-! ## The law -/

/-- **What comes of an environment, and on what it depends.**

The namespace is refused if and only if one is set, as text, that is no path of a
namespace; otherwise the host is refused if and only if one is set, as text, that no
endpoint can have; otherwise there are settings.  So it depends on these two variables
only whether there are settings, and what is wrong if there are none.

If there are, the port is the number that is set, if this is a decimal numeral, with or
without a plus sign, of a number of at most sixteen bits, and 5000 otherwise.  And each
field depends on its own variable alone. -/
theorem outcome (e : Environment) :
    ((∃ m, ofEnvironment e = .error (.invalidNamespace m)) ↔
      ∃ path, e.text? "FEED_NAMESPACE" = some path ∧ ¬ Namespace.IsPath path) ∧
    ((∃ m, ofEnvironment e = .error (.invalidEndpoint m)) ↔
      (∀ path, e.text? "FEED_NAMESPACE" = some path → Namespace.IsPath path) ∧
      ∃ host, e.text? "FEED_HOST" = some host ∧
        ∃ m, ∀ port n, Endpoint.of host port n = .error (.invalidEndpoint m)) ∧
    ((∃ settings, ofEnvironment e = .ok settings) ↔
      (∀ path, e.text? "FEED_NAMESPACE" = some path → Namespace.IsPath path) ∧
      ∀ host, e.text? "FEED_HOST" = some host →
        ∀ port n, ∃ endpoint, Endpoint.of host port n = .ok endpoint) ∧
    (∀ f : Environment, f.bytes? "FEED_NAMESPACE" = e.bytes? "FEED_NAMESPACE" →
      f.bytes? "FEED_HOST" = e.bytes? "FEED_HOST" →
      ∀ err, ofEnvironment f = .error err ↔ ofEnvironment e = .error err) ∧
    ∀ settings, ofEnvironment e = .ok settings →
      (∀ s n, e.text? "FEED_PORT" = some s → IsUnsigned s.toList n → n ≤ 65535 →
        settings.endpoint.port.toNat = n) ∧
      ((¬ ∃ s n, e.text? "FEED_PORT" = some s ∧ IsUnsigned s.toList n ∧ n ≤ 65535) →
        settings.endpoint.port = 5000) ∧
      ∀ f others, ofEnvironment f = .ok others →
        (f.bytes? "FEED_HOST" = e.bytes? "FEED_HOST" →
          others.endpoint.host = settings.endpoint.host) ∧
        (f.bytes? "FEED_PORT" = e.bytes? "FEED_PORT" →
          others.endpoint.port = settings.endpoint.port) ∧
        (f.bytes? "FEED_NAMESPACE" = e.bytes? "FEED_NAMESPACE" →
          others.endpoint.channel = settings.endpoint.channel) ∧
        (f.bytes? "FEED_EVENT" = e.bytes? "FEED_EVENT" → others.event = settings.event) ∧
        (f.bytes? "FEED_LOG_PATH" = e.bytes? "FEED_LOG_PATH" →
          others.logPath = settings.logPath) := by
  refine ⟨invalidNamespace_iff, invalidEndpoint_iff, exists_ofEnvironment_iff,
    fun f => ofEnvironment_eq_error_congr, fun settings h => ?_⟩
  have hset : settings.SetBy e := setBy_of_ofEnvironment h
  exact ⟨fun s n => hset.port_of_isUnsigned, hset.port_of_forall,
    fun f others h' => hset.congr (setBy_of_ofEnvironment h')⟩

/-- The largest port, with a plus sign and a zero in front, and a number that is one more;
an event that is no text; and both a namespace and a host that are wrong. -/
theorem outcome_of_largest_port :
    let e : Environment := ⟨[("FEED_HOST", Utf8.encode "[::1]"),
      ("FEED_PORT", Utf8.encode "+065535"), ("FEED_EVENT", [0xFF]), ("FEED_LOG_PATH", [0xFF])]⟩
    let f : Environment := ⟨[("FEED_LOG_PATH", [0xFF]), ("FEED_PORT", Utf8.encode "65536"),
      ("FEED_EVENT", Utf8.encode "name"), ("FEED_HOST", Utf8.encode "[::1]")]⟩
    let g : Environment := ⟨[("FEED_HOST", []), ("FEED_NAMESPACE", Utf8.encode "test")]⟩
    ∃ settings others : ListenerSettings, ofEnvironment e = .ok settings ∧
      ofEnvironment f = .ok others ∧ settings.endpoint.port.toNat = 65535 ∧
      others.endpoint.port = 5000 ∧ others.endpoint.host = settings.endpoint.host ∧
      others.logPath = settings.logPath ∧ settings.event = "emailmsg" ∧ others.event = "name" ∧
      ∃ m, ofEnvironment g = .error (.invalidNamespace m) := by
  intro e f g
  have he : ofEnvironment e = .ok ⟨⟨"::1", 65535, .standard⟩, "emailmsg", some [0xFF]⟩ := by
    decide +kernel
  have hf : ofEnvironment f = .ok ⟨⟨"::1", 5000, .standard⟩, "name", some [0xFF]⟩ := by
    decide +kernel
  have hport : e.text? "FEED_PORT" = some "+065535" := by decide +kernel
  have hread : unsigned? 65535 "+065535".toList = some 65535 := by decide +kernel
  obtain ⟨hnumeral, -⟩ := unsigned?_eq_some_iff.1 hread
  have hchannel : g.text? "FEED_NAMESPACE" = some "test" := by decide +kernel
  have hpath : ¬ Namespace.IsPath "test" := by
    rintro ⟨segment, hchars, -⟩
    cases hchars
  obtain ⟨-, -, -, -, hfields⟩ := outcome e
  obtain ⟨hnumber, -, hsame⟩ := hfields _ he
  obtain ⟨hhost, -, -, -, hlog⟩ := hsame f _ hf
  obtain ⟨hwrong, -⟩ := outcome g
  exact ⟨_, _, he, hf, hnumber _ _ hport hnumeral (by decide), rfl, hhost (by decide +kernel),
    hlog (by decide +kernel), rfl, rfl, hwrong.2 ⟨_, hchannel, hpath⟩⟩

end ListenerSettings

end EventFeed
