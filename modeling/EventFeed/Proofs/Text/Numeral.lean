import EventFeed.Text.Numeral
import Mathlib.Data.List.Induction
import Mathlib.Data.List.TakeWhile

/-!
# EventFeed.Proofs.Text.Numeral

Classes of characters, and numbers that stand in a text with something behind them.
The characters of one class are read off as far as they go
(`takeWhile_append_stop`), and digits without a zero in front are those of the number
that they spell (`toDigits_ofDigitChars`).
-/

namespace EventFeed

/-! ## Characters of one class -/

section Span

variable {α : Type} {p : α → Bool} {xs ys : List α}

/-- The members of a class in front of something else are what a row starts with. -/
theorem takeWhile_append_stop (hxs : ∀ x ∈ xs, p x = true) (hys : ∀ y ∈ ys.head?, p y = false) :
    (xs ++ ys).takeWhile p = xs := by
  rw [List.takeWhile_append_of_pos hxs]
  cases ys with
  | nil => simp
  | cons y ys => simp [hys y rfl]

/-- Behind them stands what is something else. -/
theorem dropWhile_append_stop (hxs : ∀ x ∈ xs, p x = true) (hys : ∀ y ∈ ys.head?, p y = false) :
    (xs ++ ys).dropWhile p = ys := by
  rw [List.dropWhile_append_of_pos hxs]
  cases ys with
  | nil => rfl
  | cons y ys => simp [hys y rfl]

end Span

/-! ## Letters and digits -/

/-- Letters and digits, by their ranges. -/
theorem isAlphanum_iff {c : Char} : c.isAlphanum = true ↔
    ('A' ≤ c ∧ c ≤ 'Z') ∨ ('a' ≤ c ∧ c ≤ 'z') ∨ ('0' ≤ c ∧ c ≤ '9') := by
  show (decide ('A' ≤ c ∧ c ≤ 'Z') || (decide ('a' ≤ c) && decide (c ≤ 'z')) ||
    (decide ('0' ≤ c) && decide (c ≤ '9'))) = true ↔ _
  simp only [Bool.or_eq_true, Bool.and_eq_true, decide_eq_true_eq, or_assoc]

theorem isDigit_iff_toNat {c : Char} : c.isDigit = true ↔ 48 ≤ c.toNat ∧ c.toNat ≤ 57 := by
  simp only [Char.isDigit, Bool.and_eq_true, decide_eq_true_eq]
  rfl

theorem ne_of_isDigit {c d : Char} (hc : c.isDigit = true) (hd : d.isDigit = false) : c ≠ d := by
  rintro rfl
  rw [hc] at hd
  cases hd

/-- A numeral has digits only. -/
theorem not_mem_toDigits {c : Char} (h : c.isDigit = false) (n : Nat) : c ∉ Nat.toDigits 10 n :=
  fun hc => ne_of_isDigit (Nat.isDigit_of_mem_toDigits (by decide) (by decide) hc) h rfl

/-- The digits of a number have what every digit of the base has. -/
theorem forall_mem_toDigits {p : Char → Prop} {b : Nat} (hb : 1 < b)
    (hp : ∀ k < b, p (Nat.digitChar k)) (n : Nat) : ∀ c ∈ Nat.toDigits b n, p c := by
  induction n using Nat.strongRecOn with
  | ind n ih =>
    rw [Nat.toDigits_eq_if hb]
    split
    · next hn => simpa using hp n hn
    · intro c hc
      rcases List.mem_append.1 hc with hc | hc
      · exact ih (n / b) (Nat.div_lt_self (by omega) hb) c hc
      · rw [List.mem_singleton.1 hc]
        exact hp _ (Nat.mod_lt _ (by omega))

/-- A digit is the one of its value. -/
theorem toDigits_of_isDigit {c : Char} (h : c.isDigit = true) :
    Nat.toDigits 10 (c.toNat - '0'.toNat) = [c] := by
  obtain ⟨hlow, hhigh⟩ := isDigit_iff_toNat.1 h
  have hall : ∀ n < 58, 48 ≤ n → Nat.toDigits 10 (n - '0'.toNat) = [Char.ofNat n] := by decide
  rw [hall c.toNat (by omega) hlow, Char.ofNat_toNat]

/-- Digits are those of the number that they spell, unless they start with a zero
and go on. -/
theorem toDigits_ofDigitChars {s : List Char} (hne : s ≠ []) (hs : ∀ c ∈ s, c.isDigit = true)
    (hzero : s.head? = some '0' → s = ['0']) :
    Nat.toDigits 10 (Nat.ofDigitChars 10 s 0) = s := by
  induction s using List.reverseRecOn with
  | nil => exact absurd rfl hne
  | append_singleton t c ih =>
    have hcdigit : c.isDigit = true := hs c (by simp)
    have hc : Nat.toDigits 10 (c.toNat - '0'.toNat) = [c] := toDigits_of_isDigit hcdigit
    rw [Nat.ofDigitChars_append, Nat.ofDigitChars_cons, Nat.ofDigitChars_nil]
    rcases eq_or_ne t [] with rfl | ht
    · rw [Nat.ofDigitChars_nil, Nat.mul_zero, Nat.zero_add, hc]
      rfl
    · have hfirst : t.head? ≠ some '0' := by
        intro h
        have hone : t ++ [c] = ['0'] := hzero (by rw [List.head?_append, h]; rfl)
        have hlength : t.length + 1 = 1 := by simpa using congrArg List.length hone
        exact ht (List.length_eq_zero_iff.1 (by omega))
      have hdigits : Nat.toDigits 10 (Nat.ofDigitChars 10 t 0) = t :=
        ih ht (fun d hd => hs d (List.mem_append_left _ hd)) fun h => absurd h hfirst
      have hpos : 0 < Nat.ofDigitChars 10 t 0 := by
        refine Nat.pos_of_ne_zero fun h => hfirst ?_
        rw [← hdigits, h]
        rfl
      have hlt : c.toNat - '0'.toNat < 10 := by
        have hhigh := (isDigit_iff_toNat.1 hcdigit).2
        have hzero : '0'.toNat = 48 := rfl
        omega
      rw [← Nat.toDigits_append_toDigits (by decide) hpos hlt, hdigits, hc]

/-! ## Unsigned numbers -/

/-- The decimal numerals of a number: digits that spell it, with or without a plus sign
in front. -/
def IsUnsigned (s : List Char) (n : Nat) : Prop :=
  ∃ digits, (s = digits ∨ s = '+' :: digits) ∧ digits ≠ [] ∧
    (∀ c ∈ digits, c.isDigit = true) ∧ Nat.ofDigitChars 10 digits 0 = n

/-- **A number is read from its numerals**, and from nothing else, if it is within the
limit. -/
theorem unsigned?_eq_some_iff {limit n : Nat} {s : List Char} :
    unsigned? limit s = some n ↔ IsUnsigned s n ∧ n ≤ limit := by
  have hread {digits : List Char} : (if digits ≠ [] ∧ digits.all Char.isDigit ∧
      Nat.ofDigitChars 10 digits 0 ≤ limit then some (Nat.ofDigitChars 10 digits 0) else none) =
      some n ↔ (digits ≠ [] ∧ (∀ c ∈ digits, c.isDigit = true) ∧
        Nat.ofDigitChars 10 digits 0 = n) ∧ n ≤ limit := by
    rw [Option.ite_none_right_eq_some, Option.some.injEq, List.all_eq_true]
    constructor
    · rintro ⟨⟨hne, hdigits, hlimit⟩, rfl⟩
      exact ⟨⟨hne, hdigits, rfl⟩, hlimit⟩
    · rintro ⟨⟨hne, hdigits, rfl⟩, hlimit⟩
      exact ⟨⟨hne, hdigits, hlimit⟩, rfl⟩
  constructor
  · intro h
    simp only [unsigned?] at h
    split at h
    · obtain ⟨hdigits, hlimit⟩ := hread.1 h
      exact ⟨⟨_, .inr rfl, hdigits⟩, hlimit⟩
    · obtain ⟨hdigits, hlimit⟩ := hread.1 h
      exact ⟨⟨_, .inl rfl, hdigits⟩, hlimit⟩
  · rintro ⟨⟨digits, rfl | rfl, hdigits⟩, hlimit⟩
    · simp only [unsigned?]
      split
      · exact absurd (hdigits.2.1 '+' List.mem_cons_self) (by decide)
      · exact hread.2 ⟨hdigits, hlimit⟩
    · exact hread.2 ⟨hdigits, hlimit⟩

/-- A text is the numeral of one number only. -/
theorem IsUnsigned.unique {s : List Char} {m n : Nat} (hm : IsUnsigned s m)
    (hn : IsUnsigned s n) : m = n := by
  have hread (k : Nat) (hk : IsUnsigned s k) (hle : k ≤ max m n) :
      unsigned? (max m n) s = some k := unsigned?_eq_some_iff.2 ⟨hk, hle⟩
  have hboth := (hread m hm (Nat.le_max_left m n)).symm.trans (hread n hn (Nat.le_max_right m n))
  exact Option.some.inj hboth

end EventFeed
