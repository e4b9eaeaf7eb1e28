import EventFeed.Json.Printer
import EventFeed.Json.Reader.Number

/-!
# EventFeed.Proofs.Json.Digits

Digits are read as they are written, wherever no more of a number follows
(`EndsNumber`): those in front of the point, if a zero in front is the only one
(`readWhole_append`), and as many of them as fit (`absorb_digits`).
-/

namespace EventFeed

namespace Json

/-! ## Digits -/

/-- No more of a number stands at the start of the text. -/
def EndsNumber (rest : Input) : Prop :=
  ∀ s ∈ rest.head?, digit? s = none ∧ s ≠ .char '.' ∧ s ≠ .char 'e' ∧ s ≠ .char 'E'

theorem endsNumber_nil : EndsNumber [] := fun _ hs => by cases hs

/-- No digit stands at the start of the text. -/
def NoDigit (rest : Input) : Prop := ∀ s ∈ rest.head?, digit? s = none

theorem EndsNumber.noDigit {rest : Input} (h : EndsNumber rest) : NoDigit rest :=
  fun s hs => (h s hs).1

theorem endsNumber_cons {c : Char} (hdigit : c.isDigit = false) (hpoint : c ≠ '.')
    (hsmall : c ≠ 'e') (hbig : c ≠ 'E') (rest : Input) : EndsNumber (.char c :: rest) := by
  intro s hs
  cases hs
  simp [digit?, hdigit, hpoint, hsmall, hbig]

/-- The value of a decimal digit. -/
def digitValue (c : Char) : Nat := c.toNat - '0'.toNat

theorem digit?_of_isDigit {c : Char} (h : c.isDigit = true) :
    digit? (.char c) = some (digitValue c) := by
  simp [digit?, h, digitValue]

theorem readDigitsFrom_append {cs : List Char} (hcs : ∀ c ∈ cs, c.isDigit = true) {rest : Input}
    (hrest : NoDigit rest) (done : List Nat) :
    readDigitsFrom done (cs.map .char ++ rest) = (done.reverse ++ cs.map digitValue, rest) := by
  induction cs generalizing done with
  | nil =>
    cases rest with
    | nil => simp [readDigitsFrom]
    | cons s rest =>
      have hs := hrest s (by simp)
      simp [readDigitsFrom, hs]
  | cons c cs ih =>
    have hc := digit?_of_isDigit (hcs c List.mem_cons_self)
    have hrest := ih (fun d hd => hcs d (List.mem_cons_of_mem _ hd)) (digitValue c :: done)
    rw [List.map_cons, List.cons_append, readDigitsFrom, hc]
    simp only [hrest, List.reverse_cons, List.append_assoc, List.map_cons, List.cons_append,
      List.nil_append]

theorem readDigits_append {cs : List Char} (hcs : ∀ c ∈ cs, c.isDigit = true) {rest : Input}
    (hrest : NoDigit rest) :
    readDigits (cs.map .char ++ rest) = (cs.map digitValue, rest) := by
  rw [readDigits, readDigitsFrom_append hcs hrest]
  rfl

/-- The first digit of a positive number is not zero. -/
theorem head?_toDigits {n : Nat} (h : 0 < n) :
    ∀ c ∈ (Nat.toDigits 10 n).head?, digitValue c ≠ 0 := by
  induction n using Nat.strongRecOn with
  | ind n ih =>
    rw [Nat.toDigits_eq_if (by decide)]
    split
    · next hlt =>
      intro c hc
      simp only [List.head?_cons, Option.mem_some_iff] at hc
      have hall : ∀ m : Fin 10, 0 < m.val → digitValue (Nat.digitChar m.val) ≠ 0 := by decide
      exact hc ▸ hall ⟨n, hlt⟩ h
    · next hge =>
      have hrest := ih (n / 10) (by omega) (by omega)
      cases hd : Nat.toDigits 10 (n / 10) with
      | nil => exact absurd hd Nat.toDigits_ne_nil
      | cons d ds =>
        rw [hd] at hrest
        simpa using hrest

theorem isDigit_toDigits {n : Nat} : ∀ c ∈ Nat.toDigits 10 n, c.isDigit = true :=
  fun _ hc => Nat.isDigit_of_mem_toDigits (by decide) (by decide) hc

/-- Only zero has the value of zero. -/
theorem eq_zero_of_digitValue {c : Char} (h : c.isDigit = true) (hzero : digitValue c = 0) :
    c = '0' := by
  have hrange : 48 ≤ c.toNat ∧ c.toNat ≤ 57 := by
    simp only [Char.isDigit, Bool.and_eq_true, decide_eq_true_eq] at h
    exact h
  have hc : c.toNat = 48 := by
    have hsub : c.toNat - 48 = 0 := hzero
    omega
  rw [← Char.ofNat_toNat c, hc]

/-- Digits are read as a whole part, if a zero in front is the only one. -/
theorem readWhole_append {cs : List Char} (hcs : ∀ c ∈ cs, c.isDigit = true) (hne : cs ≠ [])
    (hzero : cs.head? = some '0' → cs = ['0']) {rest : Input} (hrest : NoDigit rest) :
    readWhole (cs.map .char ++ rest) = .ok (cs.map digitValue, rest) := by
  have hdigits := readDigits_append hcs hrest
  cases cs with
  | nil => exact absurd rfl hne
  | cons d ds =>
    have hd := hcs d List.mem_cons_self
    have hdigit := digit?_of_isDigit hd
    rw [List.map_cons, List.cons_append] at hdigits ⊢
    rw [readWhole, hdigit]
    split
    · next hsome => cases hsome
    · next hsome =>
      have hdzero := eq_zero_of_digitValue hd (Option.some.inj hsome)
      subst hdzero
      obtain rfl : ds = [] := (List.cons.inj (hzero rfl)).2
      have hnone := readDigits_append (List.forall_mem_nil _) hrest
      simp only [List.map_nil, List.nil_append] at hnone ⊢
      rw [hnone]
      rfl
    · rw [hdigits]

/-! ## Values -/

/-- Digits that stay within the limit are all taken. -/
theorem absorb_digits {limit : Nat} (cs : List Char) {n : Nat}
    (h : Nat.ofDigitChars 10 cs n ≤ limit) :
    absorb limit n (cs.map digitValue) = (Nat.ofDigitChars 10 cs n, []) := by
  induction cs generalizing n with
  | nil => simp [absorb]
  | cons c cs ih =>
    rw [Nat.ofDigitChars_cons] at h ⊢
    have hle : n * 10 + digitValue c ≤ limit := by
      -- more digits do not make a number smaller
      have hgrow := @Nat.ofDigitChars_eq_ofDigitChars_zero cs (10 * n + (c.toNat - '0'.toNat))
      have hpow : 0 < 10 ^ cs.length := Nat.pow_pos (by decide)
      have hmul := Nat.le_mul_of_pos_left (10 * n + (c.toNat - '0'.toNat)) hpow
      rw [digitValue]
      omega
    rw [List.map_cons, absorb, if_pos hle]
    have hcomm : n * 10 + digitValue c = 10 * n + (c.toNat - '0'.toNat) := by
      rw [digitValue]
      omega
    rw [hcomm]
    exact ih h

theorem readFraction_none {rest : Input} (h : EndsNumber rest) :
    readFraction rest = .ok ([], rest) := by
  cases rest with
  | nil => rfl
  | cons s rest =>
    have hs := (h s (by simp)).2.1
    unfold readFraction
    split
    · next heq => exact absurd (List.cons.inj heq).1 hs
    · rfl

theorem readExponent_none {rest : Input} (h : EndsNumber rest) :
    readExponent rest = .ok (none, rest) := by
  cases rest with
  | nil => rfl
  | cons s rest =>
    obtain ⟨-, -, hsmall, hbig⟩ := h s (by simp)
    unfold readExponent
    split
    · next heq => exact absurd (List.cons.inj heq).1 hsmall
    · next heq => exact absurd (List.cons.inj heq).1 hbig
    · rfl

end Json

end EventFeed
