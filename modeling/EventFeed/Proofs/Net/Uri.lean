import EventFeed.Net.Uri
import EventFeed.Proofs.Json.Digits
import EventFeed.Proofs.Text.Numeral

/-!
# EventFeed.Proofs.Net.Uri

What a text is read as if it is a URI.  The parts of a URI are where its text is
divided (`Uri.ofParts`), and the text is read as these parts if each of them is well
formed (`Uri.ofText?_eq_ok_iff`).  The lemmas behind say where a text is divided
whose parts have nothing in them that divides it.
-/

namespace EventFeed

namespace Uri

/-! ## Parts -/

/-- The authority that a text starts with. -/
def authorityIn (s : List Char) : List Char := s.takeWhile fun c => !endsAuthority c

/-- What stands behind the authority, up to the fragment, and the fragment. -/
def namedIn (s : List Char) : List Char × Option (List Char) :=
  splitAt? '#' (s.drop (authorityIn s).length)

/-- The path and the query behind the authority. -/
def targetIn (s : List Char) : List Char × Option (List Char) := splitAt? '?' (namedIn s).1

/-- The host behind the user information, and what follows it. -/
def hostIn (s : List Char) : List Char × List Char := splitHost (splitUserInfo (authorityIn s)).2

/-- The URI of a scheme and of what stands behind `://`, as that is divided. -/
def ofParts (scheme s : List Char) : Uri where
  scheme := scheme
  userInfo := (splitUserInfo (authorityIn s)).1
  host := (hostIn s).1
  port := portOf? (hostIn s).2
  path := if (targetIn s).1 = [] then ['/'] else (targetIn s).1
  query := (targetIn s).2
  fragment := (namedIn s).2

/-- The parts are well formed, each by itself. -/
structure WellFormed (scheme s : List Char) : Prop where
  scheme : scheme.length ≤ 64
  authority : (authorityIn s).all isAuthorityChar = true
  authority_ne_nil : authorityIn s ≠ []
  hostPort : isHostPort (splitUserInfo (authorityIn s)).2 = true
  path : (targetIn s).1.all isPathChar = true
  query : ((targetIn s).2.getD []).all isQueryChar = true

/-- A check either fails or goes on to what follows it. -/
theorem check_eq_ok_iff {ε α : Type} {c : Prop} [Decidable c] {f : ε} {go : Unit → Except ε α}
    {x : α} : (if c then (Except.error f >>= go) else go ()) = .ok x ↔ ¬ c ∧ go () = .ok x := by
  split
  · next h => simp [h, bind, Except.bind]
  · next h => simp [h]

/-- **A text is read as its parts**, if they are well formed and it is not too long. -/
theorem ofText?_eq_ok_iff {s scheme rest : List Char} {u : Uri}
    (hsplit : splitScheme? s = some (scheme, rest)) :
    ofText? s = .ok u ↔ (String.ofList s).utf8ByteSize ≤ 65534 ∧ WellFormed scheme rest ∧
      u = ofParts scheme rest := by
  rw [ofText?]
  simp only [hsplit, check_eq_ok_iff, Nat.not_lt, Bool.not_eq_true', Bool.or_eq_true,
    Bool.not_eq_false, not_or]
  constructor
  · rintro ⟨hlong, hscheme, hauthority, hne, hhost, ⟨hpath, hquery⟩, h⟩
    exact ⟨hlong, ⟨hscheme, hauthority, hne, hhost, hpath, hquery⟩, (Except.ok.inj h).symm⟩
  · rintro ⟨hlong, h, rfl⟩
    exact ⟨hlong, h.scheme, h.authority, h.authority_ne_nil, h.hostPort, ⟨h.path, h.query⟩, rfl⟩

/-! ## Where a text is divided -/

variable {c : Char} {s authority path : List Char}

theorem splitAt?_of_not_mem (h : c ∉ s) : splitAt? c s = (s, none) := by
  have hall : s.dropWhile (· != c) = [] := by
    rw [List.dropWhile_eq_nil_iff]
    intro x hx
    exact bne_iff_ne.2 fun he => h (he ▸ hx)
  rw [splitAt?, hall]

/-- Nothing stands in front of the mark that a text starts with. -/
theorem splitAt?_cons_self (c : Char) (s : List Char) : splitAt? c (c :: s) = ([], some s) := by
  simp [splitAt?]

/-- Any other character stays in front. -/
theorem splitAt?_cons_of_ne {x : Char} (h : x ≠ c) :
    (splitAt? c (x :: s)).1 = x :: (splitAt? c s).1 := by
  have hx : (x != c) = true := bne_iff_ne.2 h
  simp only [splitAt?, List.dropWhile_cons, List.takeWhile_cons, hx, if_true]
  split
  · rfl
  · rfl

/-- An authority ends where a path begins. -/
theorem authorityIn_append (h : ∀ c ∈ authority, endsAuthority c = false)
    (hpath : ∀ c ∈ path.head?, endsAuthority c = true) :
    authorityIn (authority ++ path) = authority :=
  takeWhile_append_stop (fun c hc => by rw [h c hc]; rfl) fun c hc => by rw [hpath c hc]; rfl

/-- Path and query behind an authority: all that follows, if that has no marks. -/
theorem namedIn_append (h : ∀ c ∈ authority, endsAuthority c = false)
    (hpath : ∀ c ∈ path.head?, endsAuthority c = true) :
    namedIn (authority ++ path) = splitAt? '#' path := by
  rw [namedIn, authorityIn_append h hpath, List.drop_left]

/-- Text without an at sign has no user information. -/
theorem splitUserInfo_of_not_mem (h : '@' ∉ s) : splitUserInfo s = (none, s) := by
  have hall : s.reverse.takeWhile (· != '@') = s.reverse := by
    rw [List.takeWhile_eq_self_iff]
    intro x hx
    exact bne_iff_ne.2 fun he => h (he ▸ List.mem_reverse.1 hx)
  rw [splitUserInfo, hall, List.reverse_reverse, if_pos rfl]

/-- Text with one has some. -/
theorem isSome_splitUserInfo (h : '@' ∈ s) : (splitUserInfo s).1.isSome = true := by
  have hshort : (s.reverse.takeWhile (· != '@')).reverse.length ≠ s.length := by
    have hreverse : s.reverse.length = s.length := List.length_reverse
    rw [List.length_reverse, ← hreverse]
    intro hlength
    have hall := (List.takeWhile_prefix (l := s.reverse) (· != '@')).eq_of_length hlength
    have hmem : '@' ∈ s.reverse.takeWhile (· != '@') := by
      rw [hall]
      exact List.mem_reverse.2 h
    exact absurd (List.mem_takeWhile_imp hmem) (by decide)
  rw [splitUserInfo, if_neg hshort]
  rfl

/-- A host without brackets ends at the first colon. -/
theorem splitHost_plain {host rest : List Char} (hcolon : ':' ∉ host) (hbracket : '[' ∉ host) :
    splitHost (host ++ ':' :: rest) = (host, ':' :: rest) := by
  have hinside : ∀ c ∈ host, (c != ':') = true := fun c hc =>
    bne_iff_ne.2 fun he => hcolon (he ▸ hc)
  have hstop : ∀ c ∈ (':' :: rest).head?, (c != ':') = false := by
    intro c hc
    cases hc
    rfl
  rw [splitHost.eq_def]
  split
  · next r hr =>
    cases host with
    | nil => cases hr
    | cons c host => exact absurd ((List.cons.inj hr).1 ▸ List.mem_cons_self) hbracket
  · rw [takeWhile_append_stop hinside hstop, dropWhile_append_stop hinside hstop]

/-- A host in brackets ends at the closing one. -/
theorem splitHost_bracketed {inner rest : List Char} (h : ']' ∉ inner) :
    splitHost ('[' :: (inner ++ ']' :: rest)) = ('[' :: (inner ++ [']']), rest) := by
  have hinside : ∀ c ∈ '[' :: inner, (c != ']') = true := by
    intro c hc
    refine bne_iff_ne.2 ?_
    rintro rfl
    rcases List.mem_cons.1 hc with hc | hc
    · cases hc
    · exact h hc
  have hstop : ∀ c ∈ (']' :: rest).head?, (c != ']') = false := by
    intro c hc
    cases hc
    rfl
  have htake : ('[' :: (inner ++ ']' :: rest)).takeWhile (· != ']') = '[' :: inner :=
    takeWhile_append_stop hinside hstop
  have hsplit : '[' :: (inner ++ ']' :: rest) = ('[' :: (inner ++ [']'])) ++ rest := by simp
  have hlength : ('[' :: inner).length + 1 = ('[' :: (inner ++ [']'])).length := by simp
  rw [splitHost, htake, hlength, hsplit, List.take_left, List.drop_left]

/-- A port is read off its digits. -/
theorem portOf?_toDigits (p : UInt16) :
    portOf? (':' :: Nat.toDigits 10 p.toNat) = some p.toNat := by
  have hle : p.toNat ≤ 65535 := Nat.le_of_lt_succ p.toNat_lt
  rw [portOf?, Nat.ofDigitChars_ten_toDigits,
    if_pos ⟨Nat.toDigits_ne_nil, List.all_eq_true.2 Json.isDigit_toDigits, hle⟩]

end Uri

end EventFeed
