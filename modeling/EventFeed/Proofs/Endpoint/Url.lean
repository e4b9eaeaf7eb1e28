import EventFeed.Proofs.Endpoint.Normalisation
import EventFeed.Proofs.Net.Uri

/-!
# EventFeed.Proofs.Endpoint.Url

What the URL of an endpoint is read as.

A URL leads where its endpoint says (`Uri.Denotes`) if and only if no `@`, `?` or `#`
is in the host, since these divide a URL elsewhere (`Endpoint.denotes_iff`).  Endpoints
accept them: what stands in front of an `@` is read as user information, and a question
mark or a number sign takes port and namespace with it.  The other characters that are
not for hosts only make the URL unreadable (`Endpoint.exists_denotes_iff`).
-/

namespace EventFeed

namespace Uri

/-! ## Characters of hosts -/

/-- The characters that stand for themselves in the host of a URI. -/
def isHostChar (c : Char) : Bool := c.isAlphanum || "-._~!$&'()*+,;=:".toList.contains c

/-- The characters of an authority, but for those that divide it, brackets and percent
signs. -/
theorem isHostChar_iff {c : Char} :
    isHostChar c = true ↔ isAuthorityChar c = true ∧ c ≠ '@' ∧ c ≠ '[' ∧ c ≠ ']' ∧ c ≠ '%' := by
  constructor
  · intro h
    refine ⟨?_, ?_, ?_, ?_, ?_⟩
    · simp only [isHostChar, isAuthorityChar, Bool.or_eq_true, List.contains_iff_mem] at h ⊢
      have hall : "-._~!$&'()*+,;=:".toList.all
          ("!$&'()*+,-.:;=@[]_~%".toList.contains ·) = true := by
        decide
      exact h.imp_right fun hc => List.contains_iff_mem.1 (List.all_eq_true.1 hall c hc)
    all_goals
      rintro rfl
      exact absurd h (by decide)
  · rintro ⟨h, hat, hopening, hclosing, hpercent⟩
    simp only [isHostChar, isAuthorityChar, Bool.or_eq_true, List.contains_iff_mem] at h ⊢
    refine h.imp_right fun hc => ?_
    have hall : "!$&'()*+,-.:;=@[]_~%".toList.all (fun c => c == '@' || c == '[' || c == ']' ||
        c == '%' || "-._~!$&'()*+,;=:".toList.contains c) = true := by
      decide
    have hother := List.all_eq_true.1 hall c hc
    simpa [hat, hopening, hclosing, hpercent] using hother

/-- An IPv6 address stands for itself in a URI. -/
theorem isHostChar_of_isLiteral {s : List Char} (h : Ipv6.IsLiteral s) :
    ∀ c ∈ s, isHostChar c = true := by
  have hhex {c : Char} (hc : IsHexDigit c) : c.isAlphanum = true := by
    refine isAlphanum_iff.2 ?_
    rcases hc with hdigit | ⟨hge, hle⟩ | ⟨hge, hle⟩
    · exact .inr (.inr hdigit)
    · exact .inr (.inl ⟨hge, Char.le_trans hle (by decide)⟩)
    · exact .inl ⟨hge, Char.le_trans hle (by decide)⟩
  intro c hc
  rcases h.plain c hc with hc | rfl | rfl
  · rw [isHostChar, hhex hc, Bool.true_or]
  · decide
  · decide

/-! ## Destinations -/

/-- The URI leads where the endpoint says: to its host and port, and to the path of its
namespace, and it says nothing else. -/
structure Denotes (u : Uri) (e : Endpoint) : Prop where
  scheme : u.scheme = "ws".toList
  userInfo : u.userInfo = none
  address : u.address = e.host.toList
  port : u.port = some e.port.toNat
  path : String.ofList u.path = e.channel.path
  query : u.query = none
  fragment : u.fragment = none

end Uri

namespace Endpoint

/-! ## Where a URL is divided -/

/-- The authority of the URL: host and port. -/
def authority (e : Endpoint) : List Char :=
  e.authorityHost.toList ++ ':' :: Nat.toDigits 10 e.port.toNat

/-- What stands behind the scheme of the URL. -/
def location (e : Endpoint) : List Char := e.authority ++ '/' :: e.channel.segment.toList

variable {e : Endpoint} {u : Uri}

/-- The characters of an authority are those of its host, digits, brackets and colons. -/
theorem forall_authority_iff {P : Char → Prop} (hopening : P '[') (hclosing : P ']')
    (hcolon : P ':') (hdigit : ∀ c, c.isDigit = true → P c) :
    (∀ c ∈ e.authority, P c) ↔ ∀ c ∈ e.host.toList, P c := by
  have hport : ∀ c ∈ ':' :: Nat.toDigits 10 e.port.toNat, P c :=
    List.forall_mem_cons.2 ⟨hcolon, fun c hc => hdigit c (Json.isDigit_toDigits c hc)⟩
  rw [authority, List.forall_mem_append, and_iff_left hport, authorityHost]
  split
  · simp [or_imp, forall_and, hopening, hclosing]
  · rfl

/-- The authority of an endpoint's URL ends where its path begins. -/
theorem plain_authority (h : ∀ c ∈ e.host.toList, Uri.endsAuthority c = false) :
    ∀ c ∈ e.authority, Uri.endsAuthority c = false := by
  have hdigit (c : Char) (hc : c.isDigit = true) : Uri.endsAuthority c = false := by
    have hslash : c ≠ '/' := ne_of_isDigit hc (by decide)
    have hquestion : c ≠ '?' := ne_of_isDigit hc (by decide)
    have hnumber : c ≠ '#' := ne_of_isDigit hc (by decide)
    simp [Uri.endsAuthority, hslash, hquestion, hnumber]
  exact (forall_authority_iff (by decide) (by decide) (by decide) hdigit).2 h

theorem splitScheme?_url (e : Endpoint) :
    Uri.splitScheme? e.url.toList = some (['w', 's'], e.location) := by
  rw [e.toList_url]
  rfl

/-- Where the URL of an endpoint is divided: its host and port are the authority, the
path of its namespace is all that follows, and there is no query. -/
theorem divided_location (h : ∀ c ∈ e.host.toList, Uri.endsAuthority c = false) :
    let path := '/' :: e.channel.segment.toList
    Uri.authorityIn e.location = e.authority ∧ Uri.namedIn e.location = (path, none) ∧
      Uri.targetIn e.location = (path, none) := by
  intro path
  have hends : ∀ c ∈ path.head?, Uri.endsAuthority c = true := by
    intro c hc
    cases hc
    rfl
  have hplain {c : Char} (hslash : c ≠ '/') (hc : c ∉ e.channel.segment.toList) : c ∉ path :=
    fun hmem => (List.mem_cons.1 hmem).elim hslash hc
  have hnumber : '#' ∉ path := hplain (by decide) fun hc => (e.channel.plain _ hc).2.2.1 rfl
  have hquestion : '?' ∉ path := hplain (by decide) fun hc => (e.channel.plain _ hc).2.1 rfl
  have hnamed : Uri.namedIn e.location = (path, none) := by
    rw [location, Uri.namedIn_append (plain_authority h) hends,
      Uri.splitAt?_of_not_mem hnumber]
  refine ⟨Uri.authorityIn_append (plain_authority h) hends, hnamed, ?_⟩
  rw [Uri.targetIn, hnamed, Uri.splitAt?_of_not_mem hquestion]

/-- Host and port are found where the endpoint has put them. -/
theorem splitHost_authority (h : IsHostText e.host.toList) :
    Uri.splitHost e.authority =
      (e.authorityHost.toList, ':' :: Nat.toDigits 10 e.port.toNat) := by
  rw [authority]
  rcases toList_authorityHost h with ⟨-, hhost⟩ | ⟨-, hcolon, hhost⟩
  · have hclosing : ']' ∉ e.host.toList := fun hc => (h.2.1 _ hc).2.2.2 rfl
    rw [hhost, ← Uri.splitHost_bracketed hclosing]
    simp
  · have hopening : '[' ∉ e.host.toList := fun hc => (h.2.1 _ hc).2.2.1 rfl
    rw [hhost, Uri.splitHost_plain hcolon hopening]

/-- A host and a port make an authority, unless a percent sign is in the host. -/
theorem isHostPort_authority (h : IsHostText e.host.toList) :
    Uri.isHostPort e.authority = true ↔ '%' ∉ e.host.toList := by
  have hcount : (Nat.toDigits 10 e.port.toNat).count ':' = 0 :=
    List.count_eq_zero.2 (not_mem_toDigits (by decide) _)
  have hport : ∀ c ∈ Nat.toDigits 10 e.port.toNat, (c ≠ '[' ∧ c ≠ ']') ∧ c ≠ '%' := by
    intro c hc
    have hdigit := Json.isDigit_toDigits c hc
    exact ⟨⟨ne_of_isDigit hdigit (by decide), ne_of_isDigit hdigit (by decide)⟩,
      ne_of_isDigit hdigit (by decide)⟩
  have hbrackets : ∀ c ∈ e.host.toList, c ≠ '[' ∧ c ≠ ']' := fun c hc => (h.2.1 c hc).2.2
  have hne : e.authority ≠ [] := by simp [authority]
  rw [Uri.isHostPort, splitHost_authority h]
  rcases toList_authorityHost h with ⟨hliteral, hhost⟩ | ⟨-, -, hhost⟩
  · have hpercent : '%' ∉ e.host.toList := fun hc =>
      absurd (Uri.isHostChar_of_isLiteral hliteral _ hc) (by decide)
    have hinner : ∀ c ∈ e.host.toList, c ≠ '%' → (c ≠ '[' ∧ c ≠ ']') ∧ c ≠ '%' :=
      fun c hc hne => ⟨hbrackets c hc, hne⟩
    rw [hhost]
    refine iff_of_true ?_ hpercent
    simpa [hcount, hne] using ⟨hport, hinner⟩
  · have hplain : (∀ c ∈ e.host.toList, (c ≠ '[' ∧ c ≠ ']') ∧ c ≠ '%') ↔ '%' ∉ e.host.toList :=
      ⟨fun hall hc => (hall _ hc).2 rfl,
        fun hpercent c hc => ⟨hbrackets c hc, fun he => hpercent (he ▸ hc)⟩⟩
    rw [hhost]
    dsimp only
    split
    · next inner hinner => exact absurd hinner (plain_ne_bracketed h inner)
    · simpa [hcount, hne] using (and_iff_right hport).trans hplain

/-! ## Hosts that leave their URL undivided -/

/-- The text has no character that divides a URL, as far as a host may have them. -/
def Undivided (s : List Char) : Prop := '@' ∉ s ∧ '?' ∉ s ∧ '#' ∉ s

theorem undivided_of_isHostChar {s : List Char} (h : ∀ c ∈ s, Uri.isHostChar c = true) :
    Undivided s :=
  ⟨fun hc => absurd (h _ hc) (by decide), fun hc => absurd (h _ hc) (by decide),
    fun hc => absurd (h _ hc) (by decide)⟩

theorem endsAuthority_of_undivided (h : IsHostText e.host.toList)
    (hhost : Undivided e.host.toList) : ∀ c ∈ e.host.toList, Uri.endsAuthority c = false := by
  obtain ⟨-, hquestion, hnumber⟩ := hhost
  intro c hc
  have hslash : c ≠ '/' := (h.2.1 c hc).2.1
  have hquestion : c ≠ '?' := fun he => hquestion (he ▸ hc)
  have hnumber : c ≠ '#' := fun he => hnumber (he ▸ hc)
  simp [Uri.endsAuthority, hslash, hquestion, hnumber]

/-- There is no user information in front of such a host. -/
theorem splitUserInfo_authority (hhost : Undivided e.host.toList) :
    Uri.splitUserInfo e.authority = (none, e.authority) := by
  have hdigit (c : Char) (hc : c.isDigit = true) : c ≠ '@' := ne_of_isDigit hc (by decide)
  have hall := (forall_authority_iff (by decide) (by decide) (by decide) hdigit).2
    fun c hc he => hhost.1 (he ▸ hc)
  exact Uri.splitUserInfo_of_not_mem fun hc => hall _ hc rfl

/-- A host is found within its brackets. -/
theorem address_eq (h : IsHostText e.host.toList) (hhost : u.host = e.authorityHost.toList) :
    u.address = e.host.toList := by
  rw [Uri.address, hhost]
  rcases toList_authorityHost h with ⟨-, hhost⟩ | ⟨-, -, hhost⟩
  · simp [hhost]
  · rw [hhost]
    split
    · next rest hrest => exact absurd hrest (plain_ne_bracketed h rest)
    · rfl

/-- **The parts of a URL** with such a host are those of its endpoint. -/
theorem denotes_ofParts (h : IsHostText e.host.toList) (hhost : Undivided e.host.toList) :
    (Uri.ofParts ['w', 's'] e.location).Denotes e := by
  obtain ⟨hauthority, hnamed, htarget⟩ := divided_location (endsAuthority_of_undivided h hhost)
  have hhostIn : Uri.hostIn e.location =
      (e.authorityHost.toList, ':' :: Nat.toDigits 10 e.port.toNat) := by
    rw [Uri.hostIn, hauthority, splitUserInfo_authority hhost, splitHost_authority h]
  constructor
  · rfl
  · rw [Uri.ofParts, hauthority, splitUserInfo_authority hhost]
  · exact address_eq h (by rw [Uri.ofParts, hhostIn])
  · rw [Uri.ofParts, hhostIn, Uri.portOf?_toDigits]
  · simp [Uri.ofParts, htarget, Namespace.path]
  · rw [Uri.ofParts, htarget]
  · rw [Uri.ofParts, hnamed]

/-- Each of them is well formed if the characters of the host are those of hosts. -/
theorem wellFormed_iff (h : IsHostText e.host.toList) (hhost : Undivided e.host.toList) :
    Uri.WellFormed ['w', 's'] e.location ↔ ∀ c ∈ e.host.toList, Uri.isHostChar c = true := by
  obtain ⟨hauthority, -, htarget⟩ := divided_location (endsAuthority_of_undivided h hhost)
  have hdigit (c : Char) (hc : c.isDigit = true) : Uri.isAuthorityChar c = true := by
    rw [Uri.isAuthorityChar, Char.isAlphanum, hc, Bool.or_true, Bool.true_or]
  have hchars := forall_authority_iff (e := e) (by decide) (by decide) (by decide) hdigit
  constructor
  · intro hformed c hc
    have hallowed := hformed.authority
    have hport := hformed.hostPort
    rw [hauthority] at hallowed hport
    rw [splitUserInfo_authority hhost, isHostPort_authority h] at hport
    rw [List.all_eq_true, hchars] at hallowed
    exact Uri.isHostChar_iff.2 ⟨hallowed c hc, fun he => hhost.1 (he ▸ hc), (h.2.1 c hc).2.2.1,
      (h.2.1 c hc).2.2.2, fun he => hport (he ▸ hc)⟩
  · intro hall
    have hsegment : ∀ c ∈ e.channel.segment.toList, Uri.isPathChar c = true := by
      intro c hc
      have hallowed := List.all_eq_true.1 e.channel.valid.2 c hc
      simp only [isSegmentChar, Bool.or_eq_true, beq_iff_eq] at hallowed
      rcases hallowed with (halnum | rfl) | rfl
      · rw [Uri.isPathChar, halnum, Bool.true_or, Bool.true_or]
      · decide
      · decide
    constructor
    · decide
    · rw [hauthority, List.all_eq_true, hchars]
      exact fun c hc => (Uri.isHostChar_iff.1 (hall c hc)).1
    · rw [hauthority]
      simp [authority]
    · rw [hauthority, splitUserInfo_authority hhost, isHostPort_authority h]
      exact fun hc => absurd (hall _ hc) (by decide)
    · rw [htarget, List.all_eq_true]
      exact List.forall_mem_cons.2 ⟨by decide, hsegment⟩
    · rw [htarget]
      rfl

/-! ## Hosts that divide it -/

/-- What a URI has behind its authority begins with the mark that ends that. -/
theorem marked_of_authority_end {scheme pre rest : List Char} {c : Char}
    (hpre : ∀ c ∈ pre, Uri.endsAuthority c = false) (hc : c = '?' ∨ c = '#') :
    (Uri.ofParts scheme (pre ++ c :: rest)).query.isSome = true ∨
      (Uri.ofParts scheme (pre ++ c :: rest)).fragment.isSome = true := by
  have hends : ∀ d ∈ (c :: rest).head?, Uri.endsAuthority d = true := by
    intro d hd
    cases hd
    rcases hc with rfl | rfl
    · rfl
    · rfl
  have hnamed : Uri.namedIn (pre ++ c :: rest) = Uri.splitAt? '#' (c :: rest) :=
    Uri.namedIn_append hpre hends
  rcases hc with rfl | rfl
  · left
    have htarget : Uri.targetIn (pre ++ '?' :: rest) = ([], some (Uri.splitAt? '#' rest).1) := by
      rw [Uri.targetIn, hnamed, Uri.splitAt?_cons_of_ne (by decide), Uri.splitAt?_cons_self]
    rw [Uri.ofParts, htarget]
    rfl
  · right
    rw [Uri.ofParts, hnamed, Uri.splitAt?_cons_self]
    rfl

/-- **A URL that its host divides** does not lead where the endpoint says. -/
theorem undivided_of_denotes (h : IsHostText e.host.toList)
    (hdenotes : (Uri.ofParts ['w', 's'] e.location).Denotes e) : Undivided e.host.toList := by
  by_contra hdivided
  have hhost : e.authorityHost = e.host := by
    rcases toList_authorityHost h with ⟨hliteral, -⟩ | ⟨-, -, hhost⟩
    · exact absurd (undivided_of_isHostChar (Uri.isHostChar_of_isLiteral hliteral)) hdivided
    · exact hhost
  cases hfind : e.host.toList.find? Uri.endsAuthority with
  | some c =>
    obtain ⟨hends, pre, post, hsplit, hpre⟩ := List.find?_eq_some_iff_append.1 hfind
    have hslash : c ≠ '/' := (h.2.1 c (hsplit ▸ by simp)).2.1
    have hmark : c = '?' ∨ c = '#' := by
      simpa [Uri.endsAuthority, hslash] using hends
    have hlocation : e.location = pre ++ c :: (post ++ ':' :: Nat.toDigits 10 e.port.toNat ++
        '/' :: e.channel.segment.toList) := by
      rw [location, authority, hhost, hsplit]
      simp
    rw [hlocation] at hdenotes
    rcases marked_of_authority_end (fun c hc => by simpa using hpre c hc) hmark with hsome | hsome
    · rw [hdenotes.query] at hsome
      cases hsome
    · rw [hdenotes.fragment] at hsome
      cases hsome
  | none =>
    have hends : ∀ c ∈ e.host.toList, Uri.endsAuthority c = false := fun c hc =>
      Bool.eq_false_iff.2 (List.find?_eq_none.1 hfind c hc)
    have hmarks : '?' ∉ e.host.toList ∧ '#' ∉ e.host.toList :=
      ⟨fun hc => absurd (hends _ hc) (by decide), fun hc => absurd (hends _ hc) (by decide)⟩
    have hat : '@' ∈ e.authority := by
      have hmem : '@' ∈ e.host.toList := by_contra fun hno => hdivided ⟨hno, hmarks⟩
      rw [authority, hhost]
      exact List.mem_append_left _ hmem
    obtain ⟨hauthority, -, -⟩ := divided_location hends
    have hnone := hdenotes.userInfo
    simp only [Uri.ofParts, hauthority] at hnone
    have hsome := Uri.isSome_splitUserInfo hat
    rw [hnone] at hsome
    cases hsome

/-! ## What the URL is read as -/

/-- **A URL that can be read** leads where its endpoint says if and only if the host
does not divide it. -/
theorem denotes_iff (h : IsHostText e.host.toList) (hread : Uri.ofText? e.url.toList = .ok u) :
    u.Denotes e ↔ Undivided e.host.toList := by
  obtain ⟨-, -, rfl⟩ := (Uri.ofText?_eq_ok_iff (splitScheme?_url e)).1 hread
  exact ⟨undivided_of_denotes h, denotes_ofParts h⟩

/-- **It can be read so** if and only if the host has characters of hosts only, and the
URL is not too long. -/
theorem exists_denotes_iff (h : IsHostText e.host.toList) :
    (∃ u, Uri.ofText? e.url.toList = .ok u ∧ u.Denotes e) ↔
      (∀ c ∈ e.host.toList, Uri.isHostChar c = true) ∧ e.url.utf8ByteSize ≤ 65534 := by
  constructor
  · rintro ⟨u, hread, hdenotes⟩
    have hhost := (denotes_iff h hread).1 hdenotes
    obtain ⟨hlong, hformed, -⟩ := (Uri.ofText?_eq_ok_iff (splitScheme?_url e)).1 hread
    rw [String.ofList_toList] at hlong
    exact ⟨(wellFormed_iff h hhost).1 hformed, hlong⟩
  · rintro ⟨hall, hlong⟩
    have hhost := undivided_of_isHostChar hall
    refine ⟨_, (Uri.ofText?_eq_ok_iff (splitScheme?_url e)).2 ⟨?_, (wellFormed_iff h hhost).2 hall,
      rfl⟩, denotes_ofParts h hhost⟩
    rwa [String.ofList_toList]

end Endpoint

end EventFeed
