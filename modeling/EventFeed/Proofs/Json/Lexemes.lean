import EventFeed.Json.Reader.Skip
import EventFeed.Proofs.Json.Ordered
import EventFeed.Proofs.Json.Text
import EventFeed.Proofs.Json.Written

/-!
# EventFeed.Proofs.Json.Lexemes

Strings and numbers, one way and the other.  A reader makes of a lexeme what it
stands for, and refuses it if it stands for nothing
(`toOption_readStringFrom`, `toOption_readNumber`); one that only looks for its
end finds it in any case.  And whatever is taken for a string or a number, to be
read or to be passed over, is a lexeme of that kind.
-/

namespace EventFeed

namespace Json

/-! ## Faults -/

theorem toOption_map {ε α β : Type} (f : α → β) (r : Except ε α) :
    (r.map f).toOption = r.toOption.map f := by
  cases r <;> rfl

theorem toOption_eq_some_iff {ε α : Type} {r : Except ε α} {x : α} :
    r.toOption = some x ↔ r = .ok x := by
  cases r <;> simp [Except.toOption]

@[simp] theorem toOption_fault {α : Type} (cause : Cause) (behind : Nat) :
    (fault cause behind : Except Fault α).toOption = none := rfl

@[simp] theorem toOption_badUnit {α : Type} (input : Input) :
    (badUnit input : Except Fault α).toOption = none := by
  unfold badUnit
  split <;> rfl

@[simp] theorem toOption_unpaired {α : Type} (input : Input) :
    (unpaired input : Except Fault α).toOption = none := by
  unfold unpaired
  split <;> rfl

/-- What gives nothing is no success. -/
theorem ne_ok_of_toOption {α : Type} {r : Except Fault α} (h : r.toOption = none) (x : α) :
    r ≠ .ok x := by
  rintro rfl
  cases h

/-! ## Strings -/

theorem closed_cons (p : Piece) (ps : List Piece) (rest : Input) :
    closed (p :: ps) ++ rest = p.symbols ++ (closed ps ++ rest) := by
  simp [closed]

theorem damageAfter_eq_none_iff {c : Char} {damage : Option Nat} :
    damageAfter c damage = none ↔ damage = none := by
  simp [damageAfter]

/-- A string with damaged text is refused, whatever comes in it. -/
theorem readStringFrom_damaged {damage : Option Nat} (h : damage ≠ none) (done : List Char)
    (input : Input) : (readStringFrom damage done input).toOption = none := by
  fun_induction readStringFrom damage done input with
  | case2 damage done b rest ih => exact ih (Option.some_ne_none _)
  | case3 => exact absurd rfl h
  | case8 _ _ _ _ _ _ _ _ _ _ _ _ _ _ _ _ _ _ ih => exact ih (mt damageAfter_eq_none_iff.1 h)
  | case12 _ _ _ _ _ _ _ _ _ _ _ ih => exact ih (mt damageAfter_eq_none_iff.1 h)
  | case14 _ _ _ _ _ _ _ _ ih => exact ih (mt damageAfter_eq_none_iff.1 h)
  | case19 _ _ _ _ _ _ _ _ _ _ ih => exact ih (mt damageAfter_eq_none_iff.1 h)
  | _ => first | exact toOption_fault _ _ | exact toOption_badUnit _ | exact toOption_unpaired _

/-- A unit is read off its digits. -/
theorem readStringFrom_unit {a b c d : Char} {n : Nat} (h : hexQuad? a b c d = some n)
    (hlow : isLow n = false) (hhigh : isHigh n = false) (damage : Option Nat) (done : List Char)
    (rest : Input) :
    readStringFrom damage done
      (.char '\\' :: .char 'u' :: .char a :: .char b :: .char c :: .char d :: rest) =
      readStringFrom (damageAfter (Char.ofNat n) damage) (Char.ofNat n :: done) rest := by
  rw [readStringFrom.eq_def]
  simp [unit?, h, hlow, hhigh]

/-- Two units of surrogates are read as a character. -/
theorem readStringFrom_pair {a b c d a' b' c' d' : Char} {n m : Nat}
    (h : hexQuad? a b c d = some n) (h' : hexQuad? a' b' c' d' = some m)
    (hlow : isLow n = false) (hhigh : isHigh n = true) (hpair : isLow m = true)
    (damage : Option Nat) (done : List Char) (rest : Input) :
    readStringFrom damage done
      (.char '\\' :: .char 'u' :: .char a :: .char b :: .char c :: .char d ::
        .char '\\' :: .char 'u' :: .char a' :: .char b' :: .char c' :: .char d' :: rest) =
      readStringFrom (damageAfter (paired n m) damage) (paired n m :: done) rest := by
  rw [readStringFrom.eq_def]
  simp [unit?, h, h', hlow, hhigh, hpair]

/-- Only a unit starts with `\u`. -/
theorem unit_of_closed {ps : List Piece} {rest more : Input}
    (h : closed ps ++ rest = .char '\\' :: .char 'u' :: more) :
    ∃ a b c d m valid ps', ps = .unit a b c d m valid :: ps' := by
  cases ps with
  | nil => cases h
  | cons p ps =>
    rw [closed_cons] at h
    cases p with
    | plain c valid => exact absurd (Symbol.char.inj (List.cons.inj h).1) valid.2.1
    | stray b => cases h
    | letter c e valid =>
      have hu : c = 'u' := Symbol.char.inj (List.cons.inj (List.cons.inj h).2).1
      rw [hu] at valid
      cases valid
    | unit a b c d n valid => exact ⟨a, b, c, d, n, valid, ps, rfl⟩

/-- A string is read as the characters that its pieces stand for, unless there
was damage before them. -/
theorem toOption_readStringFrom (damage : Option Nat) (done : List Char) (ps : List Piece)
    (rest : Input) : (readStringFrom damage done (closed ps ++ rest)).toOption =
      if damage = none then (chars? ps).map fun cs => (String.ofList (done.reverse ++ cs), rest)
      else none := by
  fun_induction chars? ps generalizing damage done with
  | case1 =>
    rw [readStringFrom.eq_def]
    cases damage with
    | none => simp [closed, Except.toOption]
    | some n => simp [closed]
  | case2 c valid ps ih =>
    obtain ⟨hquote, hslash, hcontrol⟩ := valid
    rw [closed_cons, Piece.symbols, List.singleton_append,
      readStringFrom_plain hquote hslash (Nat.not_lt.2 hcontrol), ih]
    simp [damageAfter_eq_none_iff, Option.map_map, Function.comp_def]
  | case3 b ps =>
    rw [closed_cons, Piece.symbols, List.singleton_append, readStringFrom.eq_def]
    simp [readStringFrom_damaged]
  | case4 c e valid ps ih =>
    rw [closed_cons, Piece.symbols, List.cons_append, List.singleton_append,
      readStringFrom_escaped valid, ih]
    simp [damageAfter_eq_none_iff, Option.map_map, Function.comp_def]
  | case5 a b c d n valid ps hlow =>
    rw [closed_cons, readStringFrom.eq_def]
    simp [Piece.symbols, unit?, valid, hlow]
  | case6 a b c d n valid hlow hhigh a' b' c' d' m valid' ps hpair ih =>
    rw [closed_cons, closed_cons]
    simp only [Piece.symbols, List.cons_append, List.nil_append]
    rw [readStringFrom_pair valid valid' (by simpa using hlow) hhigh hpair, ih]
    simp [damageAfter_eq_none_iff, Option.map_map, Function.comp_def]
  | case7 a b c d n valid hlow hhigh a' b' c' d' m valid' ps hpair =>
    rw [closed_cons, closed_cons, readStringFrom.eq_def]
    simp [Piece.symbols, unit?, valid, valid', hlow, hhigh, hpair]
  | case8 a b c d n valid ps hlow hhigh hother =>
    rw [closed_cons, readStringFrom.eq_def]
    have hnone := fun more => @unit_of_closed ps rest more
    simp only [Piece.symbols, unit?, valid, hlow, hhigh, List.cons_append, List.nil_append,
      Bool.false_eq_true, if_false, if_true]
    split
    · next heq =>
      obtain ⟨a, b, c, d, m, valid, ps', rfl⟩ := hnone _ heq
      exact (hother a b c d m valid ps' rfl).elim
    · next heq =>
      obtain ⟨a, b, c, d, m, valid, ps', rfl⟩ := hnone _ heq
      exact (hother a b c d m valid ps' rfl).elim
    · simp
  | case9 a b c d n valid ps hlow hhigh ih =>
    rw [closed_cons]
    simp only [Piece.symbols, List.cons_append, List.nil_append]
    rw [readStringFrom_unit valid (by simpa using hlow) (by simpa using hhigh), ih]
    simp [damageAfter_eq_none_iff, Option.map_map, Function.comp_def]

/-- One piece more before a quote. -/
theorem exists_closed_cons (p : Piece) {input rest : Input} (h : ∃ ps, input = closed ps ++ rest) :
    ∃ ps, p.symbols ++ input = closed ps ++ rest := by
  obtain ⟨ps, rfl⟩ := h
  exact ⟨p :: ps, (closed_cons p ps rest).symm⟩

/-- The escape of a unit before others. -/
theorem exists_closed_unit {a b c d : Symbol} {n : Nat} (hunit : unit? a b c d = some n)
    {input rest : Input} (h : ∃ ps, input = closed ps ++ rest) :
    ∃ ps, .char '\\' :: .char 'u' :: a :: b :: c :: d :: input = closed ps ++ rest := by
  unfold unit? at hunit
  split at hunit
  · exact exists_closed_cons (.unit _ _ _ _ n hunit) h
  · cases hunit

/-- What is read as a string is pieces and a quote. -/
theorem exists_pieces_of_readStringFrom {damage : Option Nat} {done : List Char}
    {input rest : Input} {s : String} (h : readStringFrom damage done input = .ok (s, rest)) :
    ∃ ps, input = closed ps ++ rest := by
  fun_induction readStringFrom damage done input with
  | case2 damage done b input ih => exact exists_closed_cons (.stray b) (ih h)
  | case3 done input =>
    cases h
    exact ⟨[], rfl⟩
  | case8 _ _ _ _ _ _ _ hunit _ _ _ _ _ _ _ _ hunit' _ ih =>
    exact exists_closed_unit hunit (exists_closed_unit hunit' (ih h))
  | case12 _ _ _ _ _ _ _ _ hunit _ _ ih => exact exists_closed_unit hunit (ih h)
  | case14 _ _ c _ _ _ e valid ih => exact exists_closed_cons (.letter c e valid) (ih h)
  | case19 _ _ c _ hquote _ _ _ hslash hcontrol ih =>
    exact exists_closed_cons (.plain c ⟨hquote, hslash, Nat.not_lt.1 hcontrol⟩) (ih h)
  | _ => exact absurd h (ne_ok_of_toOption (by simp) _)

/-- Pieces are passed over, whatever they stand for. -/
theorem skipString_closed (ps : List Piece) (rest : Input) :
    skipString (closed ps ++ rest) = .ok rest := by
  induction ps with
  | nil => simp [closed, skipString]
  | cons p ps ih =>
    rw [closed_cons]
    cases p with
    | plain c valid =>
      obtain ⟨hquote, hslash, hcontrol⟩ := valid
      rw [Piece.symbols, List.singleton_append, skipString.eq_def]
      simp [hslash, Nat.not_lt.2 hcontrol, ih]
    | stray b => simp [Piece.symbols, skipString, ih]
    | letter c e valid =>
      have hu : c ≠ 'u' := by
        rintro rfl
        cases valid
      rw [Piece.symbols, List.cons_append, List.singleton_append, skipString.eq_def]
      simp [hu, valid, ih]
    | unit a b c d n valid =>
      rw [skipString.eq_def]
      simp [Piece.symbols, unit?, valid, ih]

/-- What is passed over as a string is pieces and a quote. -/
theorem exists_pieces_of_skipString {input rest : Input} (h : skipString input = .ok rest) :
    ∃ ps, input = closed ps ++ rest := by
  fun_induction skipString input with
  | case2 b input ih => exact exists_closed_cons (.stray b) (ih h)
  | case3 input =>
    cases h
    exact ⟨[], rfl⟩
  | case5 _ _ _ _ _ _ hunit ih => exact exists_closed_unit hunit (ih h)
  | case7 c _ _ _ e valid ih => exact exists_closed_cons (.letter c e valid) (ih h)
  | case12 c _ hquote _ _ _ hslash hcontrol ih =>
    exact exists_closed_cons (.plain c ⟨hquote, hslash, Nat.not_lt.1 hcontrol⟩) (ih h)
  | _ => exact absurd h (ne_ok_of_toOption (by simp) _)

/-! ## Numbers -/

/-- What follows the fraction of a number starts with no digit. -/
theorem noDigit_power (f : Figures) {rest : Input} (h : EndsNumber rest) :
    NoDigit (f.powerChars.map .char ++ rest) := by
  rw [Figures.powerChars]
  cases f.power with
  | none => exact h.noDigit
  | some p =>
    intro s hs
    cases hs
    cases p.capital <;> rfl

/-- Neither does what follows its whole part. -/
theorem noDigit_fraction (f : Figures) {rest : Input} (h : EndsNumber rest) :
    NoDigit ((f.fractionChars ++ f.powerChars).map .char ++ rest) := by
  rw [Figures.fractionChars]
  split
  · exact noDigit_power f h
  · intro s hs
    cases hs
    rfl

theorem readFraction_chars (f : Figures) {rest : Input} (h : EndsNumber rest) :
    readFraction ((f.fractionChars ++ f.powerChars).map .char ++ rest) =
      .ok (f.fraction.map digitValue, f.powerChars.map .char ++ rest) := by
  rw [Figures.fractionChars]
  split
  · next hnone =>
    rw [hnone, List.nil_append, Figures.powerChars]
    cases f.power with
    | none => exact readFraction_none h
    | some p =>
      rw [Option.elim_some, Power.chars]
      cases p.capital <;> rfl
  · next hsome =>
    have hdigits := readDigits_append f.fraction_valid (noDigit_power f h)
    rw [List.map_append, List.append_assoc, List.map_cons, List.cons_append, readFraction, hdigits]
    cases hf : f.fraction with
    | nil => exact absurd hf hsome
    | cons c cs => rfl

/-- An exponent is read as its sign and its digits. -/
theorem readPower_signed (p : Power) {rest : Input} (h : EndsNumber rest) :
    readPower (p.signed.map .char ++ rest) = .ok (some p.literal, rest) := by
  obtain ⟨capital, negative, digits, hne, hdigits⟩ := p
  have hread := readDigits_append hdigits h.noDigit
  have hsome : digits.map digitValue ≠ [] := fun hnil => hne (List.map_eq_nil_iff.1 hnil)
  have hsign :
      readSign ((Power.signed ⟨capital, negative, digits, hne, hdigits⟩).map .char ++ rest) =
      (negative.getD false, digits.map .char ++ rest) := by
    cases negative with
    | some negative => cases negative <;> rfl
    | none =>
      cases digits with
      | nil => exact absurd rfl hne
      | cons c cs =>
        have hc := hdigits c List.mem_cons_self
        have hminus : c ≠ '-' := by
          rintro rfl
          cases hc
        have hplus : c ≠ '+' := by
          rintro rfl
          cases hc
        simp [Power.signed, readSign.eq_def, hminus, hplus]
  rw [readPower, hsign]
  simp only [hread, Power.literal]
  cases hds : digits.map digitValue with
  | nil => exact absurd hds hsome
  | cons d ds => rfl

theorem readExponent_chars (f : Figures) {rest : Input} (h : EndsNumber rest) :
    readExponent (f.powerChars.map .char ++ rest) = .ok (f.power.map Power.literal, rest) := by
  rw [Figures.powerChars]
  cases f.power with
  | none => exact readExponent_none h
  | some p =>
    have hpower := readPower_signed p h
    rw [Option.elim_some, Power.chars, List.map_cons, List.cons_append]
    cases p.capital
    · exact hpower
    · exact hpower

/-- A number is read as its literal. -/
theorem readLiteral_unsigned (f : Figures) (negative : Bool) {rest : Input} (h : EndsNumber rest) :
    readLiteral negative (f.unsigned.map .char ++ rest) = .ok (f.literal negative, rest) := by
  obtain ⟨⟨hne, hdigits⟩, hzero⟩ := f.whole_valid
  rw [readLiteral, Figures.unsigned, List.map_append, List.append_assoc,
    readWhole_append hdigits hne hzero (noDigit_fraction f h)]
  simp only [bind, Except.bind, readFraction_chars f h, readExponent_chars f h, pure, Except.pure]
  rfl

/-- A number is read as the number that its figures stand for. -/
theorem toOption_readNumber (f : Figures) {rest : Input} (h : EndsNumber rest) :
    (readNumber f.negative (f.unsigned.map .char ++ rest)).toOption =
      f.value?.map fun n => (n, rest) := by
  rw [readNumber, readLiteral_unsigned f f.negative h, Figures.value?]
  simp only [bind, Except.bind]
  cases (f.literal f.negative).value with
  | error unread => rfl
  | ok n => rfl

/-- It is passed over, whatever it stands for. -/
theorem skipNumber_unsigned (f : Figures) {rest : Input} (h : EndsNumber rest) :
    skipNumber (f.unsigned.map .char ++ rest) = .ok rest := by
  rw [skipNumber, readLiteral_unsigned f false h]

/-! ## What is a number -/

/-- The symbol of a digit. -/
theorem exists_digit {s : Symbol} {d : Nat} (h : digit? s = some d) :
    ∃ c : Char, s = .char c ∧ c.isDigit = true ∧ d = digitValue c := by
  cases s with
  | stray b => cases h
  | char c =>
    rw [digit?] at h
    split at h
    · next hc => exact ⟨c, rfl, hc, (Option.some.inj h).symm⟩
    · cases h

theorem exists_digits_of_readDigitsFrom {done ds : List Nat} {input rest : Input}
    (h : readDigitsFrom done input = (ds, rest)) :
    ∃ cs : List Char, (∀ c ∈ cs, c.isDigit = true) ∧ input = cs.map .char ++ rest ∧
      ds = done.reverse ++ cs.map digitValue := by
  induction input generalizing done with
  | nil =>
    cases h
    exact ⟨[], List.forall_mem_nil _, rfl, by simp⟩
  | cons s input ih =>
    rw [readDigitsFrom] at h
    split at h
    · next d hd =>
      obtain ⟨c, rfl, hc, rfl⟩ := exists_digit hd
      obtain ⟨cs, hcs, rfl, rfl⟩ := ih h
      exact ⟨c :: cs, List.forall_mem_cons.2 ⟨hc, hcs⟩, rfl, by simp⟩
    · cases h
      exact ⟨[], List.forall_mem_nil _, rfl, by simp⟩

/-- What is read as digits is digits. -/
theorem exists_digits_of_readDigits {ds : List Nat} {input rest : Input}
    (h : readDigits input = (ds, rest)) :
    ∃ cs : List Char, (∀ c ∈ cs, c.isDigit = true) ∧ input = cs.map .char ++ rest ∧
      ds = cs.map digitValue :=
  exists_digits_of_readDigitsFrom h

theorem exists_whole_of_readWhole {ds : List Nat} {input rest : Input}
    (h : readWhole input = .ok (ds, rest)) :
    ∃ cs : List Char, (IsDigits cs ∧ (cs.head? = some '0' → cs = ['0'])) ∧
      input = cs.map .char ++ rest := by
  rw [readWhole.eq_def] at h
  split at h
  · cases h
  · next s input =>
    split at h
    · cases h
    · next hs =>
      obtain ⟨c, rfl, hc, hzero⟩ := exists_digit hs
      obtain rfl := eq_zero_of_digitValue hc hzero.symm
      split at h
      · cases h
        exact ⟨['0'], ⟨⟨List.cons_ne_nil _ _, List.forall_mem_singleton.2 rfl⟩, fun _ => rfl⟩, rfl⟩
      · cases h
    · next d hpos hs =>
      obtain ⟨c, rfl, hc, rfl⟩ := exists_digit hs
      have hfrom := Except.ok.inj h
      rw [readDigits, readDigitsFrom, hs] at hfrom
      obtain ⟨cs, hcs, rfl, -⟩ := exists_digits_of_readDigitsFrom hfrom
      refine ⟨c :: cs, ⟨⟨List.cons_ne_nil _ _, List.forall_mem_cons.2 ⟨hc, hcs⟩⟩, fun hhead => ?_⟩,
        rfl⟩
      obtain rfl : c = '0' := Option.some.inj hhead
      exact absurd rfl hpos

theorem exists_fraction_of_readFraction {ds : List Nat} {input rest : Input}
    (h : readFraction input = .ok (ds, rest)) :
    ∃ cs : List Char, (∀ c ∈ cs, c.isDigit = true) ∧
      input = (if cs = [] then [] else '.' :: cs).map .char ++ rest := by
  rw [readFraction.eq_def] at h
  split at h
  · next input =>
    split at h
    · cases h
    · cases h
    · next ds' rest' hnone hdigits =>
      cases h
      obtain ⟨cs, hcs, rfl, rfl⟩ := exists_digits_of_readDigits hdigits
      refine ⟨cs, hcs, ?_⟩
      rw [if_neg]
      · rfl
      · rintro rfl
        exact hnone rfl
  · cases h
    exact ⟨[], List.forall_mem_nil _, rfl⟩

theorem exists_power_of_readPower {p : Option (Bool × List Nat)} {input rest : Input}
    (h : readPower input = .ok (p, rest)) (capital : Bool) :
    ∃ q : Power, q.capital = capital ∧ input = q.signed.map .char ++ rest := by
  -- the sign in front of the digits
  obtain ⟨sign, behind, hbehind, hinput⟩ : ∃ sign behind, (readSign input).2 = behind ∧
      ∀ cs valid, behind = cs.map .char ++ rest →
        input = (Power.signed ⟨capital, sign, cs, valid⟩).map .char ++ rest := by
    rw [readSign.eq_def]
    split
    · exact ⟨some false, _, rfl, fun cs valid hcs => congrArg (Symbol.char '+' :: ·) hcs⟩
    · exact ⟨some true, _, rfl, fun cs valid hcs => congrArg (Symbol.char '-' :: ·) hcs⟩
    · exact ⟨none, _, rfl, fun cs valid hcs => hcs⟩
  rw [readPower] at h
  simp only [hbehind] at h
  split at h
  · cases h
  · cases h
  · next ds rest' hnone hdigits =>
    cases h
    obtain ⟨cs, hcs, hcut, rfl⟩ := exists_digits_of_readDigits hdigits
    have hne : cs ≠ [] := by
      rintro rfl
      exact hnone rfl
    exact ⟨⟨capital, sign, cs, hne, hcs⟩, rfl, hinput cs ⟨hne, hcs⟩ hcut⟩

theorem exists_power_of_readExponent {p : Option (Bool × List Nat)} {input rest : Input}
    (h : readExponent input = .ok (p, rest)) :
    ∃ q : Option Power, input = (q.elim [] Power.chars).map .char ++ rest := by
  rw [readExponent.eq_def] at h
  split at h
  · obtain ⟨q, hcapital, rfl⟩ := exists_power_of_readPower h false
    exact ⟨some q, by simp [Power.chars, hcapital]⟩
  · obtain ⟨q, hcapital, rfl⟩ := exists_power_of_readPower h true
    exact ⟨some q, by simp [Power.chars, hcapital]⟩
  · cases h
    exact ⟨none, rfl⟩

/-- What is read as a literal is the figures of a number, behind its sign. -/
theorem exists_figures_of_readLiteral {negative : Bool} {l : Literal} {input rest : Input}
    (h : readLiteral negative input = .ok (l, rest)) (sign : Bool) :
    ∃ f : Figures, f.negative = sign ∧ input = f.unsigned.map .char ++ rest := by
  rw [readLiteral] at h
  obtain ⟨⟨whole, rest₁⟩, hwhole, h⟩ := bind_eq_ok_iff.1 h
  obtain ⟨⟨fraction, rest₂⟩, hfraction, h⟩ := bind_eq_ok_iff.1 h
  obtain ⟨⟨power, rest₃⟩, hpower, h⟩ := bind_eq_ok_iff.1 h
  cases h
  obtain ⟨cs, hcs, rfl⟩ := exists_whole_of_readWhole hwhole
  obtain ⟨ds, hds, rfl⟩ := exists_fraction_of_readFraction hfraction
  obtain ⟨q, rfl⟩ := exists_power_of_readExponent hpower
  refine ⟨⟨sign, cs, ds, q, hcs, hds⟩, rfl, ?_⟩
  simp only [Figures.unsigned, Figures.fractionChars, Figures.powerChars, List.map_append,
    List.append_assoc]

end Json

end EventFeed
