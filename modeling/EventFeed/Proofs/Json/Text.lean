import EventFeed.Json.Printer
import EventFeed.Json.Reader.String

/-!
# EventFeed.Proofs.Json.Text

JSON strings are read as they are written.  The reader undoes the escape of
each character (`readStringFrom_escapeChar`), so it finds every text between
the quotes that the printer puts around it (`readString_escaped`).
-/

namespace EventFeed

namespace Json

/-! ## Hexadecimal digits -/

/-- The digits of the printer are digits to the reader. -/
theorem hexDigit?_hexDigit {n : Nat} (h : n < 16) : hexDigit? (hexDigit n) = some n := by
  have hall : ∀ n : Fin 16, hexDigit? (hexDigit n) = some n.val := by decide
  exact hall ⟨n, h⟩

/-- The four digits of a control character spell its code. -/
theorem unit?_control {n : Nat} (h : n < 0x20) :
    unit? (.char '0') (.char '0') (.char (hexDigit (n / 16))) (.char (hexDigit (n % 16))) =
      some n := by
  have hzero : hexDigit? '0' = some 0 := by decide
  have hhigh := hexDigit?_hexDigit (n := n / 16) (by omega)
  have hlow := hexDigit?_hexDigit (n := n % 16) (by omega)
  simp only [unit?, hexQuad?, hzero, hhigh, hlow, Option.bind_eq_bind, Option.bind_some]
  simp only [Option.pure_def, Option.some.injEq]
  omega

/-! ## Characters -/

/-- An escape of one letter is read as its character. -/
theorem readStringFrom_escaped {c e : Char} (h : escaped? c = some e) (damage : Option Nat)
    (done : List Char) (rest : Input) :
    readStringFrom damage done (.char '\\' :: .char c :: rest) =
      readStringFrom (damageAfter e damage) (e :: done) rest := by
  have hu : c ≠ 'u' := by
    rintro rfl
    cases h
  rw [readStringFrom.eq_def]
  simp [h, hu]

/-- A control character is read off its four digits. -/
theorem readStringFrom_control {c : Char} (h : c.toNat < 0x20) (done : List Char) (rest : Input) :
    readStringFrom none done (.char '\\' :: .char 'u' :: .char '0' :: .char '0' ::
      .char (hexDigit (c.toNat / 16)) :: .char (hexDigit (c.toNat % 16)) :: rest) =
      readStringFrom none (c :: done) rest := by
  have hlow : isLow c.toNat = false := by
    simp only [isLow, Bool.and_eq_false_iff, decide_eq_false_iff_not]
    omega
  have hhigh : isHigh c.toNat = false := by
    simp only [isHigh, Bool.and_eq_false_iff, decide_eq_false_iff_not]
    omega
  rw [readStringFrom.eq_def]
  simp [unit?_control h, hlow, hhigh, damageAfter]

/-- Every other character stands for itself. -/
theorem readStringFrom_plain {c : Char} (hquote : c ≠ '"') (hslash : c ≠ '\\')
    (h : ¬c.toNat < 0x20) (damage : Option Nat) (done : List Char) (rest : Input) :
    readStringFrom damage done (.char c :: rest) =
      readStringFrom (damageAfter c damage) (c :: done) rest := by
  rw [readStringFrom.eq_def]
  simp [hslash, h]

/-- Reading undoes the escape of a character. -/
theorem readStringFrom_escapeChar (c : Char) (done : List Char) (rest : Input) :
    readStringFrom none done ((escapeChar c).map .char ++ rest) =
      readStringFrom none (c :: done) rest := by
  unfold escapeChar
  split
  · next hc =>
    subst hc
    exact readStringFrom_escaped (by decide) none done rest
  split
  · next hc =>
    subst hc
    exact readStringFrom_escaped (by decide) none done rest
  split
  · next hc =>
    subst hc
    exact readStringFrom_escaped (by decide) none done rest
  split
  · next hc =>
    subst hc
    exact readStringFrom_escaped (by decide) none done rest
  split
  · next hc =>
    subst hc
    exact readStringFrom_escaped (by decide) none done rest
  split
  · next hc =>
    subst hc
    exact readStringFrom_escaped (by decide) none done rest
  split
  · next hc =>
    subst hc
    exact readStringFrom_escaped (by decide) none done rest
  split
  · next hc => exact readStringFrom_control hc done rest
  · next hquote hslash _ _ _ _ _ hc => exact readStringFrom_plain hquote hslash hc none done rest

/-! ## Strings -/

/-- The characters of a string as they stand between its quotes. -/
def escapedChars (s : String) : List Char := s.toList.flatMap escapeChar

theorem stringChars_eq (s : String) : stringChars s = '"' :: (escapedChars s ++ ['"']) := rfl

theorem readStringFrom_escaped_append (cs done : List Char) (rest : Input) :
    readStringFrom none done ((cs.flatMap escapeChar).map .char ++ rest) =
      readStringFrom none (cs.reverse ++ done) rest := by
  induction cs generalizing done with
  | nil => rfl
  | cons c cs ih =>
    rw [List.flatMap_cons, List.map_append, List.append_assoc, readStringFrom_escapeChar, ih,
      List.reverse_cons, List.append_assoc]
    rfl

/-- What is written of a string behind its opening quote is read as the
string. -/
theorem readString_escaped (s : String) (rest : Input) :
    readString ((escapedChars s).map .char ++ .char '"' :: rest) = .ok (s, rest) := by
  rw [readString, escapedChars, readStringFrom_escaped_append, readStringFrom.eq_def]
  simp

/-- The same, from the opening quote on. -/
theorem map_stringChars (s : String) (rest : Input) :
    (stringChars s).map .char ++ rest =
      .char '"' :: ((escapedChars s).map .char ++ .char '"' :: rest) := by
  rw [stringChars_eq]
  simp

end Json

end EventFeed
