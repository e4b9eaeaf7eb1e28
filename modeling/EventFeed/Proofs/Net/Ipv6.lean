import EventFeed.Net.Ip
import EventFeed.Proofs.Json.Digits
import EventFeed.Proofs.Text.Numeral

/-!
# EventFeed.Proofs.Net.Ipv6

Which texts are IPv6 addresses (`Ipv6.IsLiteral`), as a grammar beside the reader.

* A group is one to four hexadecimal digits, and a row is groups with colons
  between them, at the end of which an IPv4 address may stand for two groups.
* An address is a row of eight groups, or two rows of at most seven groups
  together, of which the first has no IPv4 address, with two colons between them.
  Each of the two may be empty.

The reader takes a group wherever it can, and never has to take one back: what it
reads is a row (`Ipv6.row_of_readGroups`), and a row in front of two colons or of
the end is all that it reads (`Ipv6.readGroups_row`).  So it accepts exactly the
addresses of the grammar (`Ipv6.isSome_ofText?_iff`).
-/

namespace EventFeed

/-! ## Characters -/

/-- A hexadecimal digit of either case. -/
def IsHexDigit (c : Char) : Prop :=
  ('0' ≤ c ∧ c ≤ '9') ∨ ('a' ≤ c ∧ c ≤ 'f') ∨ ('A' ≤ c ∧ c ≤ 'F')

instance (c : Char) : Decidable (IsHexDigit c) := inferInstanceAs (Decidable (_ ∨ _ ∨ _))

theorem isSome_hexDigit?_iff {c : Char} : (hexDigit? c).isSome = true ↔ IsHexDigit c := by
  simp only [hexDigit?, IsHexDigit, Bool.and_eq_true, decide_eq_true_eq]
  split
  · next h => simp [h]
  split
  · next h => simp [h]
  split
  · next h => simp [h]
  · next hdigit hlower hupper => simp [hdigit, hlower, hupper]

theorem IsHexDigit.of_isDigit {c : Char} (h : c.isDigit = true) : IsHexDigit c := by
  simp only [Char.isDigit, Bool.and_eq_true, decide_eq_true_eq] at h
  exact .inl h

theorem expect?_eq_some_iff {c : Char} {s rest : List Char} :
    expect? c s = some rest ↔ s = c :: rest := by
  cases s with
  | nil => simp [expect?]
  | cons x s =>
    rw [expect?]
    split
    · next h => simp [h]
    · next h => simp [h]

/-! ## IPv4 -/

namespace Ipv4

/-- An octet: a decimal number below 256, without zeros in front. -/
def IsOctet (s : List Char) : Prop := ∃ n < 256, s = Nat.toDigits 10 n

/-- An address: four octets with dots between them. -/
def IsLiteral (s : List Char) : Prop :=
  ∃ a b c d, IsOctet a ∧ IsOctet b ∧ IsOctet c ∧ IsOctet d ∧
    s = a ++ '.' :: (b ++ '.' :: (c ++ '.' :: d))

variable {s rest : List Char}

theorem IsOctet.isDigit (h : IsOctet s) : ∀ c ∈ s, c.isDigit = true := by
  obtain ⟨n, -, rfl⟩ := h
  exact Json.isDigit_toDigits

/-- An octet is read off its digits. -/
theorem readOctet?_append (h : IsOctet s) (hrest : ∀ c ∈ rest.head?, c.isDigit = false) :
    ∃ n, readOctet? (s ++ rest) = some (n, rest) := by
  have htake : (s ++ rest).takeWhile Char.isDigit = s := takeWhile_append_stop h.isDigit hrest
  have hdrop : (s ++ rest).dropWhile Char.isDigit = rest := dropWhile_append_stop h.isDigit hrest
  obtain ⟨n, hn, rfl⟩ := h
  have hlength : (Nat.toDigits 10 n).length ≤ 3 :=
    (Nat.length_toDigits_le_iff (by decide) (by decide)).2 (by omega)
  have hzero : (Nat.toDigits 10 n).head? = some '0' → (Nat.toDigits 10 n).length = 1 := by
    intro hhead
    cases n with
    | zero => rfl
    | succ n => exact absurd rfl (Json.head?_toDigits (Nat.succ_pos n) '0' hhead)
  refine ⟨n.toUInt8, ?_⟩
  rw [readOctet?, htake, hdrop, Nat.ofDigitChars_ten_toDigits,
    if_pos ⟨Nat.toDigits_ne_nil, hlength, by omega, hzero⟩]

/-- Whatever is read as an octet is one. -/
theorem octet_of_readOctet? {n : UInt8} (h : readOctet? s = some (n, rest)) :
    ∃ a, IsOctet a ∧ s = a ++ rest := by
  rw [readOctet?] at h
  split at h
  · next hoctet =>
    obtain ⟨hne, -, hle, hzero⟩ := hoctet
    cases h
    have hdigits : ∀ c ∈ s.takeWhile Char.isDigit, c.isDigit = true :=
      fun c hc => List.mem_takeWhile_imp hc
    have hone : (s.takeWhile Char.isDigit).head? = some '0' → s.takeWhile Char.isDigit = ['0'] := by
      intro hhead
      obtain ⟨c, hc⟩ := List.length_eq_one_iff.1 (hzero hhead)
      rw [hc] at hhead ⊢
      rw [Option.some.inj hhead]
    exact ⟨_, ⟨_, Nat.lt_succ_of_le hle, (toDigits_ofDigitChars hne hdigits hone).symm⟩,
      List.takeWhile_append_dropWhile.symm⟩
  · cases h

/-- An address is read off its text. -/
theorem read?_append (h : IsLiteral s) (hrest : ∀ c ∈ rest.head?, c.isDigit = false) :
    ∃ x, read? (s ++ rest) = some (x, rest) := by
  obtain ⟨a, b, c, d, ha, hb, hc, hd, rfl⟩ := h
  have hdot (cs : List Char) : ∀ c ∈ ('.' :: cs).head?, c.isDigit = false := by
    intro c hc
    cases hc
    rfl
  obtain ⟨m₁, h₁⟩ := readOctet?_append ha (hdot (b ++ '.' :: (c ++ '.' :: (d ++ rest))))
  obtain ⟨m₂, h₂⟩ := readOctet?_append hb (hdot (c ++ '.' :: (d ++ rest)))
  obtain ⟨m₃, h₃⟩ := readOctet?_append hc (hdot (d ++ rest))
  obtain ⟨m₄, h₄⟩ := readOctet?_append hd hrest
  refine ⟨⟨m₁, m₂, m₃, m₄⟩, ?_⟩
  simp [read?, h₁, h₂, h₃, h₄, expect?]

/-- Whatever is read as an address is one. -/
theorem literal_of_read? {x : Ipv4} (h : read? s = some (x, rest)) :
    ∃ q, IsLiteral q ∧ s = q ++ rest := by
  simp only [read?, Option.bind_eq_bind, Option.bind_eq_some_iff] at h
  obtain ⟨⟨m₁, s₁⟩, h₁, t₁, ht₁, ⟨m₂, s₂⟩, h₂, t₂, ht₂, ⟨m₃, s₃⟩, h₃, t₃, ht₃, ⟨m₄, s₄⟩, h₄, h⟩ := h
  cases h
  obtain rfl := expect?_eq_some_iff.1 ht₁
  obtain rfl := expect?_eq_some_iff.1 ht₂
  obtain rfl := expect?_eq_some_iff.1 ht₃
  obtain ⟨a, ha, rfl⟩ := octet_of_readOctet? h₁
  obtain ⟨b, hb, rfl⟩ := octet_of_readOctet? h₂
  obtain ⟨c, hc, rfl⟩ := octet_of_readOctet? h₃
  obtain ⟨d, hd, rfl⟩ := octet_of_readOctet? h₄
  exact ⟨_, ⟨a, b, c, d, ha, hb, hc, hd, rfl⟩, by simp⟩

end Ipv4

/-! ## IPv6 -/

namespace Ipv6

/-- A group: one to four hexadecimal digits. -/
def IsGroup (s : List Char) : Prop := s ≠ [] ∧ s.length ≤ 4 ∧ ∀ c ∈ s, IsHexDigit c

/-- A row of so many groups with colons between them.  An IPv4 address may stand for
the last two groups, which the flag tells. -/
inductive IsRow : (embedded : Bool) → Nat → List Char → Prop
  | group {g : List Char} (h : IsGroup g) : IsRow false 1 g
  | embedded {q : List Char} (h : Ipv4.IsLiteral q) : IsRow true 2 q
  | more {g s : List Char} {b : Bool} {n : Nat} (h : IsGroup g) (hs : IsRow b n s) :
      IsRow b (n + 1) (g ++ ':' :: s)

/-- A row that may be empty. -/
def IsPart (embedded : Bool) (n : Nat) (s : List Char) : Prop :=
  (embedded = false ∧ n = 0 ∧ s = []) ∨ IsRow embedded n s

/-- The text of an address: eight groups, or fewer and two colons for those that are
left out. -/
inductive IsLiteral : List Char → Prop
  | full {s : List Char} {b : Bool} (h : IsRow b 8 s) : IsLiteral s
  | short {front back : List Char} {b : Bool} {m n : Nat} (hfront : IsPart false m front)
      (hback : IsPart b n back) (hroom : m + n ≤ 7) : IsLiteral (front ++ ':' :: ':' :: back)

variable {g row s rest : List Char} {b : Bool} {n room : Nat}

/-! ### What is read is a row -/

/-- Whatever is read as a group is one. -/
theorem group_of_readGroup? {x : UInt16} (h : readGroup? s = some (x, rest)) :
    ∃ g, IsGroup g ∧ s = g ++ rest := by
  rw [readGroup?] at h
  split at h
  · next hgroup =>
    obtain ⟨hne, hlength⟩ := hgroup
    cases h
    refine ⟨_, ⟨hne, hlength, fun c hc => isSome_hexDigit?_iff.1 ?_⟩,
      (List.prefix_iff_eq_append.1 (List.takeWhile_prefix _)).symm⟩
    exact List.mem_takeWhile_imp (p := fun c => (hexDigit? c).isSome) hc
  · cases h

/-- **Whatever groups are read make a row**, unless there are none. -/
theorem row_of_readGroups {first : Bool} {gs : List UInt16}
    (h : readGroups room first s = (gs, b, rest)) :
    (gs = [] ∧ b = false ∧ rest = s) ∨ ∃ row, IsRow b gs.length row ∧ gs.length ≤ room ∧
      s = (if first then row else ':' :: row) ++ rest := by
  induction room generalizing first s gs b rest with
  | zero =>
    cases h
    exact .inl ⟨rfl, rfl, rfl⟩
  | succ room ih =>
    rw [readGroups] at h
    split at h
    · cases h
      exact .inl ⟨rfl, rfl, rfl⟩
    next r hr =>
    have hs (t : List Char) (ht : r = t ++ rest) : s = (if first then t else ':' :: t) ++ rest := by
      cases first with
      | true => exact (Option.some.inj hr).trans ht
      | false => exact (expect?_eq_some_iff.1 hr).trans (congrArg (':' :: ·) ht)
    split at h
    · next x r' hx =>
      cases h
      split at hx
      · cases hx
      next hroom =>
      obtain ⟨q, hq, hsplit⟩ := Ipv4.literal_of_read? hx
      refine .inr ⟨q, .embedded hq, ?_, hs q hsplit⟩
      rw [List.length_cons, List.length_singleton]
      omega
    · split at h
      · next x r' hx =>
        obtain ⟨g, hg, hsplit⟩ := group_of_readGroup? hx
        cases hread : readGroups room false r' with
        | mk gs' tail =>
        obtain ⟨b', rest'⟩ := tail
        rw [hread] at h
        cases h
        rcases ih hread with ⟨rfl, rfl, rfl⟩ | ⟨row, hrow, hle, rfl⟩
        · exact .inr ⟨g, .group hg, by simp, hs g hsplit⟩
        · refine .inr ⟨g ++ ':' :: row, .more hg hrow, by simpa using hle, hs _ ?_⟩
          rw [hsplit, List.append_assoc]
          rfl
      · cases h
        exact .inl ⟨rfl, rfl, rfl⟩

/-! ### A row is read -/

/-- What may follow a row: nothing, or two colons. -/
def Stops (rest : List Char) : Prop := rest = [] ∨ ∃ more, rest = ':' :: ':' :: more

theorem Stops.not_hex (h : Stops rest) : ∀ c ∈ rest.head?, ¬ IsHexDigit c ∧ c ≠ '.' := by
  rcases h with rfl | ⟨more, rfl⟩
  · simp
  · intro c hc
    cases hc
    decide

theorem readGroup?_append (h : IsGroup g) (hrest : ∀ c ∈ rest.head?, ¬ IsHexDigit c ∧ c ≠ '.') :
    ∃ x, readGroup? (g ++ rest) = some (x, rest) := by
  obtain ⟨hne, hlength, hhex⟩ := h
  have htake : (g ++ rest).takeWhile (fun c => (hexDigit? c).isSome) = g :=
    takeWhile_append_stop (fun c hc => isSome_hexDigit?_iff.2 (hhex c hc)) fun c hc => by
      rw [Bool.eq_false_iff, Ne, isSome_hexDigit?_iff]
      exact (hrest c hc).1
  rw [readGroup?, htake, if_pos ⟨hne, hlength⟩, List.drop_left]
  exact ⟨_, rfl⟩

/-- A group is not the beginning of an IPv4 address, unless a dot follows it. -/
theorem read?_group (h : IsGroup g) (hrest : ∀ c ∈ rest.head?, ¬ IsHexDigit c ∧ c ≠ '.') :
    Ipv4.read? (g ++ rest) = none := by
  by_contra hread
  obtain ⟨⟨x, behind⟩, hread⟩ := Option.ne_none_iff_exists'.1 hread
  obtain ⟨q, ⟨a, b, c, d, ha, -, -, -, rfl⟩, hq⟩ := Ipv4.literal_of_read? hread
  rw [List.append_assoc] at hq
  have hg : (g ++ rest).takeWhile (fun c => decide (IsHexDigit c)) = g :=
    takeWhile_append_stop (fun c hc => decide_eq_true (h.2.2 c hc))
      fun c hc => decide_eq_false (hrest c hc).1
  have hoctet : (g ++ rest).takeWhile (fun c => decide (IsHexDigit c)) = a := by
    rw [hq]
    refine takeWhile_append_stop (fun c hc => decide_eq_true (.of_isDigit (ha.isDigit c hc))) ?_
    intro c hc
    cases hc
    decide
  rw [hg] at hoctet
  rw [hoctet] at hq
  rw [List.append_cancel_left hq] at hrest
  exact (hrest '.' rfl).2 rfl

/-- Nothing is read where a row stops. -/
theorem readGroups_stop (h : Stops rest) (room : Nat) (first : Bool) :
    readGroups room first rest = ([], false, rest) := by
  have hcolon (more : List Char) :
      Ipv4.read? (':' :: more) = none ∧ readGroup? (':' :: more) = none := by
    have hdigit : ':'.isDigit = false := by decide
    have hhex : hexDigit? ':' = none := by decide
    simp [Ipv4.read?, Ipv4.readOctet?, readGroup?, hdigit, hhex]
  cases room with
  | zero => rfl
  | succ room =>
    rcases h with rfl | ⟨more, rfl⟩
    · cases first <;> simp [readGroups, expect?, Ipv4.read?, Ipv4.readOctet?, readGroup?]
    · cases first <;> simp [readGroups, expect?, hcolon]

/-- A group is read wherever there is room for it. -/
theorem readGroups_group (h : IsGroup g) (hrest : ∀ c ∈ rest.head?, ¬ IsHexDigit c ∧ c ≠ '.')
    (room : Nat) (first : Bool) :
    ∃ x, readGroups (room + 1) first ((if first then g else ':' :: g) ++ rest) =
      ((x :: (readGroups room false rest).1), (readGroups room false rest).2) := by
  obtain ⟨x, hx⟩ := readGroup?_append h hrest
  have hnone : (if room = 0 then none else Ipv4.read? (g ++ rest)) = none := by
    rw [read?_group h hrest, ite_self]
  refine ⟨x, ?_⟩
  cases first with
  | true => simp only [readGroups, if_true, hnone, hx]
  | false =>
    simp only [readGroups, Bool.false_eq_true, if_false, List.cons_append, expect?, if_true,
      hnone, hx]

/-- **A row is read as far as it goes**, if there is room for it. -/
theorem readGroups_row (h : IsRow b n row) (hroom : n ≤ room) (hrest : Stops rest) (first : Bool) :
    ∃ gs, gs.length = n ∧
      readGroups room first ((if first then row else ':' :: row) ++ rest) = (gs, b, rest) := by
  induction h generalizing room first with
  | group hg =>
    obtain ⟨room, rfl⟩ := Nat.exists_eq_add_of_le' hroom
    obtain ⟨x, hread⟩ := readGroups_group hg hrest.not_hex room first
    rw [readGroups_stop hrest] at hread
    exact ⟨[x], rfl, hread⟩
  | @embedded q hq =>
    obtain ⟨room, rfl⟩ := Nat.exists_eq_add_of_le' hroom
    obtain ⟨x, hread⟩ := Ipv4.read?_append hq fun c hc => by
      rw [Bool.eq_false_iff]
      exact fun hdigit => (hrest.not_hex c hc).1 (.of_isDigit hdigit)
    refine ⟨[groupOf x.a x.b, groupOf x.c x.d], rfl, ?_⟩
    have hpos : room + 1 ≠ 0 := by omega
    cases first with
    | true => simp only [readGroups, if_true, if_neg hpos, hread]
    | false =>
      simp only [readGroups, Bool.false_eq_true, if_false, List.cons_append, expect?, if_true,
        if_neg hpos, hread]
  | @more g s b n hg hs ih =>
    obtain ⟨room, rfl⟩ := Nat.exists_eq_add_of_le' (Nat.le_trans (Nat.le_add_left 1 n) hroom)
    have hcolon : ∀ c ∈ (':' :: s ++ rest).head?, ¬ IsHexDigit c ∧ c ≠ '.' := by
      intro c hc
      cases hc
      decide
    obtain ⟨x, hread⟩ := readGroups_group hg hcolon room first
    obtain ⟨gs, hlength, hgs⟩ := ih (by omega : n ≤ room) false
    rw [if_neg (by decide)] at hgs
    rw [hgs] at hread
    refine ⟨x :: gs, by rw [List.length_cons, hlength], ?_⟩
    rw [← hread]
    cases first <;> simp

/-- The same of a row that may be empty. -/
theorem readGroups_part (h : IsPart b n row) (hroom : n ≤ room) (hrest : Stops rest) :
    ∃ gs, gs.length = n ∧ readGroups room true (row ++ rest) = (gs, b, rest) := by
  rcases h with ⟨rfl, rfl, rfl⟩ | h
  · exact ⟨[], rfl, readGroups_stop hrest room true⟩
  · exact readGroups_row h hroom hrest true

/-! ### Addresses -/

/-- The groups that are read from the beginning of a text make a part. -/
theorem part_of_readGroups {gs : List UInt16} (h : readGroups room true s = (gs, b, rest)) :
    ∃ row, IsPart b gs.length row ∧ gs.length ≤ room ∧ s = row ++ rest := by
  rcases row_of_readGroups h with ⟨rfl, rfl, rfl⟩ | ⟨row, hrow, hle, hsplit⟩
  · exact ⟨[], .inl ⟨rfl, rfl, rfl⟩, Nat.zero_le _, rfl⟩
  · exact ⟨row, .inr hrow, hle, hsplit⟩

/-- Whatever is read as a whole address is one. -/
theorem literal_of_read? {x : Ipv6} (h : read? s = some (x, [])) : IsLiteral s := by
  obtain ⟨⟨front, b, behind⟩, hfront⟩ : ∃ r, readGroups 8 true s = r := ⟨_, rfl⟩
  obtain ⟨row, hrow, hle, rfl⟩ := part_of_readGroups hfront
  rw [read?, hfront] at h
  dsimp only at h
  split at h
  · next hfull =>
    cases h
    rw [hfull] at hrow
    rcases hrow with ⟨-, hzero, -⟩ | hrow
    · cases hzero
    · rw [List.append_nil]
      exact .full hrow
  next hfull =>
  split at h
  · cases h
  next hplain =>
  simp only [Option.bind_eq_bind, Option.bind_eq_some_iff] at h
  obtain ⟨t, ht, t', ht', h⟩ := h
  obtain rfl := expect?_eq_some_iff.1 ht
  obtain rfl := expect?_eq_some_iff.1 ht'
  obtain ⟨⟨back, b', behind'⟩, hback⟩ : ∃ r, readGroups (7 - front.length) true t' = r := ⟨_, rfl⟩
  obtain ⟨row', hrow', hle', rfl⟩ := part_of_readGroups hback
  rw [hback] at h
  cases h
  rw [Bool.eq_false_iff.2 hplain] at hrow
  rw [List.append_nil]
  exact .short hrow hrow' (by omega)

/-- An address is read to its end. -/
theorem IsLiteral.read?_eq (h : IsLiteral s) : ∃ x, read? s = some (x, []) := by
  cases h with
  | @full s b hrow =>
    obtain ⟨gs, hlength, hgs⟩ := readGroups_row hrow (Nat.le_refl 8) (.inl rfl) true
    rw [if_pos rfl, List.append_nil] at hgs
    rw [read?, hgs]
    exact ⟨_, if_pos hlength⟩
  | @short front back b m n hfront hback hroom =>
    obtain ⟨gs, hlength, hgs⟩ := readGroups_part hfront (by omega : m ≤ 8) (.inr ⟨back, rfl⟩)
    obtain ⟨gs', -, hgs'⟩ := readGroups_part hback (by omega : n ≤ 7 - m) (.inl rfl)
    rw [List.append_nil] at hgs'
    rw [read?, hgs]
    dsimp only
    rw [if_neg (by omega), if_neg (by decide), hlength]
    simp only [expect?, if_true, Option.bind_eq_bind, Option.bind_some, hgs']
    exact ⟨_, rfl⟩

/-- **The texts that are read as addresses are those of the grammar.** -/
theorem isSome_ofText?_iff : (ofText? s).isSome = true ↔ IsLiteral s := by
  rw [Option.isSome_iff_exists]
  constructor
  · rintro ⟨x, hx⟩
    rw [ofText?] at hx
    split at hx
    · next y hread => exact literal_of_read? hread
    · cases hx
  · intro h
    obtain ⟨x, hread⟩ := h.read?_eq
    rw [ofText?, hread]
    exact ⟨x, rfl⟩

instance (s : List Char) : Decidable (IsLiteral s) := decidable_of_iff _ isSome_ofText?_iff

/-! ### What addresses are made of -/

theorem IsGroup.plain (h : IsGroup g) : ∀ c ∈ g, IsHexDigit c ∨ c = ':' ∨ c = '.' :=
  fun c hc => .inl (h.2.2 c hc)

theorem IsRow.plain (h : IsRow b n row) : ∀ c ∈ row, IsHexDigit c ∨ c = ':' ∨ c = '.' := by
  induction h with
  | group hg => exact hg.plain
  | embedded hq =>
    obtain ⟨a, b, c, d, ha, hb, hc, hd, rfl⟩ := hq
    have hoctet {s : List Char} (hs : Ipv4.IsOctet s) : ∀ x ∈ s, IsHexDigit x ∨ x = ':' ∨ x = '.' :=
      fun x hx => .inl (.of_isDigit (hs.isDigit x hx))
    intro x hx
    simp only [List.mem_append, List.mem_cons] at hx
    rcases hx with hx | rfl | hx | rfl | hx | rfl | hx
    · exact hoctet ha x hx
    · exact .inr (.inr rfl)
    · exact hoctet hb x hx
    · exact .inr (.inr rfl)
    · exact hoctet hc x hx
    · exact .inr (.inr rfl)
    · exact hoctet hd x hx
  | more hg hs ih =>
    intro x hx
    simp only [List.mem_append, List.mem_cons] at hx
    rcases hx with hx | rfl | hx
    · exact hg.plain x hx
    · exact .inr (.inl rfl)
    · exact ih x hx

theorem IsPart.plain (h : IsPart b n row) : ∀ c ∈ row, IsHexDigit c ∨ c = ':' ∨ c = '.' := by
  rcases h with ⟨-, -, rfl⟩ | h
  · exact List.forall_mem_nil _
  · exact h.plain

/-- An address has hexadecimal digits, colons and dots only. -/
theorem IsLiteral.plain (h : IsLiteral s) : ∀ c ∈ s, IsHexDigit c ∨ c = ':' ∨ c = '.' := by
  cases h with
  | full hrow => exact hrow.plain
  | short hfront hback =>
    intro c hc
    simp only [List.mem_append, List.mem_cons] at hc
    rcases hc with hc | rfl | rfl | hc
    · exact hfront.plain c hc
    · exact .inr (.inl rfl)
    · exact .inr (.inl rfl)
    · exact hback.plain c hc

/-- An address has a colon. -/
theorem IsLiteral.colon_mem (h : IsLiteral s) : ':' ∈ s := by
  cases h with
  | full hrow =>
    cases hrow with
    | more => simp
  | short => simp

end Ipv6

end EventFeed
