import EventFeed.Proofs.Json.Floats
import EventFeed.Proofs.Json.Lexemes
import EventFeed.Proofs.Text.Numeral

/-!
# EventFeed.Proofs.Json.Numbers

Numbers as they are printed and read again.  A number that was read fits 64 bits
(`fits_of_readAtom`).  The text of a number that fits has figures that stand for a
number (`Number.exists_figures`), so it is read as a number wherever it stands
(`readAtom_chars`).  An integer is read as itself; a floating-point number may be read
as one of its neighbours, since the reader rounds twice (`Number.reread`).
-/

namespace EventFeed

/-- The number fits 64 bits: an integer is in range, and a floating-point number is in
normal form. -/
def Number.Fits : Number → Prop
  | .integer n => FitsInt n
  | .float x => x.magnitude.Normal

namespace Json

/-! ## What is read fits -/

theorem absorb_le {limit n : ℕ} (h : n ≤ limit) (ds : List ℕ) : (absorb limit n ds).1 ≤ limit := by
  induction ds generalizing n with
  | nil => exact h
  | cons d ds ih =>
    rw [absorb]
    split
    · next hd => exact ih hd
    · exact h

theorem fits_of_float? {negative : Bool} {n : ℕ} {e : ℤ} {x : Number}
    (h : (float? negative n e).map .float = some x) : x.Fits := by
  obtain ⟨y, hy, rfl⟩ := Option.map_eq_some_iff.1 h
  exact normal_of_float? hy

theorem fits_of_integer? {negative : Bool} {n : ℕ} (hn : n ≤ significandLimit) {x : Number}
    (h : integer? negative n = some x) : x.Fits := by
  rw [significandLimit] at hn
  rw [integer?] at h
  split at h
  · split at h
    · next hrange =>
      cases h
      exact ⟨by omega, by omega⟩
    · exact fits_of_float? h
  · cases h
    exact ⟨by omega, by omega⟩

/-- The value of a literal fits. -/
theorem fits_of_value {l : Literal} {x : Number} (h : l.value = .ok x) : x.Fits := by
  have hwhole := absorb_le (Nat.zero_le significandLimit) l.whole
  have hfraction := absorb_le hwhole l.fraction
  rw [Literal.value] at h
  dsimp only at h
  split at h
  · split at h
    · split at h
      · next hx =>
        cases h
        exact normal_of_float? hx
      · cases h
    · split at h
      · cases h
      · cases h
        exact Magnitude.normal_zero
  · split at h
    · split at h
      · next hx =>
        cases h
        exact fits_of_integer? hfraction hx
      · cases h
    · split at h
      · next hx =>
        cases h
        exact normal_of_float? hx
      · cases h

theorem fits_of_readNumber {negative : Bool} {input rest : Input} {x : Number}
    (h : readNumber negative input = .ok (x, rest)) : x.Fits := by
  obtain ⟨⟨l, _⟩, -, h⟩ := bind_eq_ok_iff.1 h
  dsimp only at h
  split at h
  · next hvalue =>
    cases h
    exact fits_of_value hvalue
  · cases h

/-- **A number that was read fits.** -/
theorem fits_of_readAtom {input rest : Input} {x : Number}
    (h : readAtom input = .ok (.number x, rest)) : x.Fits := by
  rw [readAtom.eq_def] at h
  split at h
  · cases h
  · obtain ⟨_, -, h⟩ := map_eq_ok_iff.1 h
    cases h
  · obtain ⟨_, -, h⟩ := map_eq_ok_iff.1 h
    cases h
  · obtain ⟨_, -, h⟩ := map_eq_ok_iff.1 h
    cases h
  · obtain ⟨_, -, h⟩ := map_eq_ok_iff.1 h
    cases h
  · obtain ⟨_, hread, h⟩ := map_eq_ok_iff.1 h
    cases h
    exact fits_of_readNumber hread
  · split at h
    · obtain ⟨_, hread, h⟩ := map_eq_ok_iff.1 h
      cases h
      exact fits_of_readNumber hread
    · cases h

/-! ## Figures -/

/-- What starts with a digit is a number. -/
theorem readAtom_of_isDigit {c : Char} (h : c.isDigit = true) (rest : Input) :
    readAtom (.char c :: rest) =
      (readNumber false (.char c :: rest)).map fun (n, rest) => (.number n, rest) := by
  have hne {d : Char} := ne_of_isDigit (d := d) h
  have hletter : c ≠ 'n' ∧ c ≠ 't' ∧ c ≠ 'f' ∧ c ≠ '"' ∧ c ≠ '-' :=
    ⟨hne (by decide), hne (by decide), hne (by decide), hne (by decide), hne (by decide)⟩
  rw [readAtom.eq_def]
  simp [hletter, digit?_of_isDigit h]

/-- A number starts with its sign or a digit. -/
theorem exists_chars_cons (f : Figures) : ∃ c cs, f.chars = c :: cs ∧
    (f.negative = true ∧ c = '-' ∧ cs = f.unsigned ∨
      f.negative = false ∧ c.isDigit = true ∧ c :: cs = f.unsigned) := by
  rw [Figures.chars]
  cases f.negative with
  | true => exact ⟨'-', f.unsigned, rfl, .inl ⟨rfl, rfl, rfl⟩⟩
  | false =>
    obtain ⟨⟨hne, hdigits⟩, -⟩ := f.whole_valid
    rw [if_neg Bool.false_ne_true, Figures.unsigned]
    cases hw : f.whole with
    | nil => exact absurd hw hne
    | cons c cs =>
      rw [hw] at hdigits
      exact ⟨c, _, rfl, .inr ⟨rfl, hdigits c List.mem_cons_self, rfl⟩⟩

/-- Figures are read as the number that they stand for. -/
theorem toOption_readAtom_chars (f : Figures) {rest : Input} (h : EndsNumber rest) :
    (readAtom (f.chars.map .char ++ rest)).toOption =
      f.value?.map fun n => (Atom.number n, rest) := by
  have hread := toOption_readNumber f h
  obtain ⟨c, cs, hchars, ⟨hf, rfl, rfl⟩ | ⟨hf, hc, hcs⟩⟩ := exists_chars_cons f
  · rw [hf] at hread
    rw [hchars, List.map_cons, List.cons_append, readAtom, toOption_map, hread, Option.map_map]
    rfl
  · rw [hf, ← hcs] at hread
    rw [hchars]
    rw [List.map_cons, List.cons_append] at hread ⊢
    rw [readAtom_of_isDigit hc, toOption_map, hread, Option.map_map]
    rfl

/-- Digits that fit are all taken, those behind the point as well. -/
theorem absorb_append {limit : ℕ} {cs ds : List Char}
    (h : Nat.ofDigitChars 10 (cs ++ ds) 0 ≤ limit) :
    absorb limit 0 (cs.map digitValue) = (Nat.ofDigitChars 10 cs 0, []) ∧
      absorb limit (Nat.ofDigitChars 10 cs 0) (ds.map digitValue) =
        (Nat.ofDigitChars 10 (cs ++ ds) 0, []) := by
  rw [Nat.ofDigitChars_append] at h ⊢
  have hgrow := @Nat.ofDigitChars_eq_ofDigitChars_zero ds (Nat.ofDigitChars 10 cs 0)
  have hmul := Nat.le_mul_of_pos_left (Nat.ofDigitChars 10 cs 0)
    (Nat.pow_pos (by decide) : 0 < 10 ^ ds.length)
  exact ⟨absorb_digits cs (by omega), absorb_digits ds h⟩

namespace Figures

/-- The number that the digits spell without the point. -/
def significand (f : Figures) : ℕ := Nat.ofDigitChars 10 (f.whole ++ f.fraction) 0

/-- Figures without an exponent whose digits fit. -/
theorem value?_of_none {f : Figures} (hpower : f.power = none)
    (h : f.significand ≤ significandLimit) : f.value? =
      if f.fraction = [] then integer? f.negative f.significand
      else (float? f.negative f.significand (-f.fraction.length)).map .float := by
  obtain ⟨hwhole, hfraction⟩ := absorb_append h
  rw [value?, literal, hpower]
  simp only [Literal.value, hwhole, hfraction, Option.map_none, List.map_eq_nil_iff, and_true]
  split
  · rw [significand]
    cases integer? f.negative (Nat.ofDigitChars 10 (f.whole ++ f.fraction) 0) <;> rfl
  · simp only [List.length_map, List.length_nil, Nat.sub_zero, Int.natCast_zero, zero_sub,
      significand]
    cases float? f.negative (Nat.ofDigitChars 10 (f.whole ++ f.fraction) 0) (-f.fraction.length) <;>
      rfl

/-- Figures with an exponent, if both the digits and the exponent fit. -/
theorem value?_of_some {f : Figures} {p : Power} (hpower : f.power = some p)
    (h : f.significand ≤ significandLimit) {k : ℕ} (hk : Nat.ofDigitChars 10 p.digits 0 = k)
    (hle : k ≤ exponentLimit) : f.value? =
      (float? f.negative f.significand
        (if p.negative.getD false = true then -f.fraction.length - k
          else -f.fraction.length + k)).map .float := by
  obtain ⟨hwhole, hfraction⟩ := absorb_append h
  have hexponent : absorb exponentLimit 0 (p.digits.map digitValue) = (k, []) := by
    rw [absorb_digits _ (by rwa [hk]), hk]
  rw [value?, literal, hpower]
  simp only [Literal.value, hwhole, hfraction, Option.map_some, Power.literal, hexponent,
    List.length_map, List.length_nil, Nat.sub_zero, Int.natCast_zero, zero_sub, significand]
  generalize (if p.negative.getD false = true then -(f.fraction.length : ℤ) - k
    else -f.fraction.length + k) = e
  cases float? f.negative (Nat.ofDigitChars 10 (f.whole ++ f.fraction) 0) e <;> rfl

end Figures

/-! ## Printed decimals -/

/-- Digits that may stand in front of the point. -/
def IsWhole (cs : List Char) : Prop := IsDigits cs ∧ (cs.head? = some '0' → cs = ['0'])

/-- Digits are if they start with another one than zero. -/
theorem isWhole_of_head {cs : List Char} (hcs : IsDigits cs)
    (hhead : ∀ c ∈ cs.head?, digitValue c ≠ 0) : IsWhole cs :=
  ⟨hcs, fun h => absurd rfl (hhead '0' h)⟩

/-- The first digits of a number other than zero are, if there is one at least. -/
theorem isWhole_take {n k : ℕ} (hn : 0 < n) (hk : 0 < k) :
    IsWhole ((Nat.toDigits 10 n).take k) := by
  refine isWhole_of_head ⟨fun hnil => ?_, fun c hc => ?_⟩ fun c hc => head?_toDigits hn c ?_
  · rcases List.take_eq_nil_iff.1 hnil with hzero | hzero
    · omega
    · exact Nat.toDigits_ne_nil hzero
  · exact isDigit_toDigits c (List.mem_of_mem_take hc)
  · rwa [List.head?_take, if_neg (by omega)] at hc

/-- So are all of them, with zeros behind them unless the number is zero. -/
theorem isWhole_append {n e : ℕ} (h : n = 0 → e = 0) :
    IsWhole (Nat.toDigits 10 n ++ List.replicate e '0') := by
  rcases Nat.eq_zero_or_pos n with rfl | hn
  · rw [h rfl]
    exact ⟨⟨List.cons_ne_nil _ _, isDigit_toDigits (n := 0)⟩, fun _ => rfl⟩
  · refine isWhole_of_head ⟨fun hnil => ?_, fun c hc => ?_⟩ fun c hc => head?_toDigits hn c ?_
    · exact Nat.toDigits_ne_nil (List.append_eq_nil_iff.1 hnil).1
    · rcases List.mem_append.1 hc with hc | hc
      · exact isDigit_toDigits c hc
      · rw [List.eq_of_mem_replicate hc]
        rfl
    · cases hd : Nat.toDigits 10 n with
      | nil => exact absurd hd Nat.toDigits_ne_nil
      | cons d ds => simpa [hd] using hc

namespace Figures

variable {n : ℕ} {negative : Bool}

/-- Digits on both sides of a point, without an exponent. -/
theorem exists_point {cs ds : List Char} (hcs : IsWhole cs) (hds : IsDigits ds)
    (hfit : Nat.ofDigitChars 10 (cs ++ ds) 0 ≤ significandLimit) :
    ∃ f : Figures, f.negative = negative ∧ f.unsigned = cs ++ '.' :: ds ∧
      f.value?.isSome = true := by
  obtain ⟨hsome, hdigits⟩ := hds
  let f : Figures := ⟨negative, cs, ds, none, hcs, hdigits⟩
  have hpos : 0 < f.fraction.length := List.length_pos_iff.2 hsome
  refine ⟨f, rfl, ?_, ?_⟩
  · simp only [f, unsigned, fractionChars, powerChars, if_neg hsome, Option.elim_none,
      List.append_nil]
  · rw [value?_of_none (f := f) rfl hfit, if_neg hsome, Option.isSome_map]
    exact isSome_float?_of_neg _ hfit (by omega)

/-- A whole number and a zero behind the point. -/
theorem exists_whole {e : ℕ} (h : n = 0 → e = 0) (hfit : n * 10 ^ (e + 1) ≤ significandLimit) :
    ∃ f : Figures, f.negative = negative ∧
      f.unsigned = Nat.toDigits 10 n ++ List.replicate e '0' ++ ['.', '0'] ∧
      f.value?.isSome = true := by
  refine exists_point (isWhole_append h) ⟨List.cons_ne_nil _ _, List.forall_mem_singleton.2 rfl⟩ ?_
  have hspelt : Nat.ofDigitChars 10 (Nat.toDigits 10 n ++ List.replicate e '0' ++ ['0']) 0 =
      n * 10 ^ (e + 1) := by
    rw [Nat.ofDigitChars_append, Nat.ofDigitChars_append, Nat.ofDigitChars_ten_toDigits,
      Nat.ofDigitChars_replicate_zero, ← List.replicate_one, Nat.ofDigitChars_replicate_zero]
    ring
  rwa [hspelt]

/-- Digits of a number on both sides of the point. -/
theorem exists_split {k : ℕ} (hk : 0 < k) (hlt : k < (Nat.toDigits 10 n).length)
    (hfit : n ≤ significandLimit) :
    ∃ f : Figures, f.negative = negative ∧
      f.unsigned = (Nat.toDigits 10 n).take k ++ '.' :: (Nat.toDigits 10 n).drop k ∧
      f.value?.isSome = true := by
  have hn : 0 < n := Nat.pos_of_ne_zero fun hzero => by
    rw [hzero, Nat.toDigits_zero, List.length_singleton] at hlt
    omega
  refine exists_point (isWhole_take hn hk) ⟨fun hnil => ?_, fun c hc => ?_⟩ ?_
  · have := List.drop_eq_nil_iff.1 hnil
    omega
  · exact isDigit_toDigits c (List.mem_of_mem_drop hc)
  · rwa [List.take_append_drop, Nat.ofDigitChars_ten_toDigits]

/-- All digits of a number behind the point. -/
theorem exists_fraction (zeros : ℕ) (hfit : n ≤ significandLimit) :
    ∃ f : Figures, f.negative = negative ∧
      f.unsigned = '0' :: '.' :: List.replicate zeros '0' ++ Nat.toDigits 10 n ∧
      f.value?.isSome = true := by
  have hzero : IsWhole ['0'] :=
    ⟨⟨List.cons_ne_nil _ _, List.forall_mem_singleton.2 rfl⟩, fun _ => rfl⟩
  refine exists_point hzero ⟨fun hnil => ?_, fun c hc => ?_⟩ ?_
  · exact Nat.toDigits_ne_nil (List.append_eq_nil_iff.1 hnil).2
  · rcases List.mem_append.1 hc with hc | hc
    · rw [List.eq_of_mem_replicate hc]
      rfl
    · exact isDigit_toDigits c hc
  · have hspelt : Nat.ofDigitChars 10 (['0'] ++ (List.replicate zeros '0' ++ Nat.toDigits 10 n)) 0 =
        n := by
      rw [← List.replicate_one, ← List.append_assoc, List.replicate_append_replicate,
        Nat.ofDigitChars_append, Nat.ofDigitChars_replicate_zero, Nat.mul_zero,
        Nat.ofDigitChars_ten_toDigits]
    exact hspelt.trans_le hfit

/-- One digit in front of the point, and an exponent. -/
theorem exists_power (hn : 0 < n) (hfit : n ≤ significandLimit) {power : ℤ}
    (hpower : power.natAbs ≤ exponentLimit)
    (h : (float? negative n (power - ((Nat.toDigits 10 n).length - 1 : ℕ))).isSome = true) :
    ∃ f : Figures, f.negative = negative ∧
      f.unsigned = (Nat.toDigits 10 n).take 1 ++
        (if (Nat.toDigits 10 n).length = 1 then [] else '.' :: (Nat.toDigits 10 n).drop 1) ++
        'e' :: (if power < 0 then '-' else '+') :: Nat.toDigits 10 power.natAbs ∧
      f.value?.isSome = true := by
  let p : Power := ⟨false, some (decide (power < 0)), Nat.toDigits 10 power.natAbs,
    Nat.toDigits_ne_nil, isDigit_toDigits⟩
  let f : Figures := ⟨negative, (Nat.toDigits 10 n).take 1, (Nat.toDigits 10 n).drop 1, some p,
    isWhole_take hn Nat.one_pos, fun c hc => isDigit_toDigits c (List.mem_of_mem_drop hc)⟩
  have hsignificand : f.significand = n := by
    simp only [f, significand, List.take_append_drop, Nat.ofDigitChars_ten_toDigits]
  have hpos : 0 < (Nat.toDigits 10 n).length := Nat.length_toDigits_pos
  refine ⟨f, rfl, ?_, ?_⟩
  · have hsigned : p.signed =
        (if power < 0 then '-' else '+') :: Nat.toDigits 10 power.natAbs := by
      by_cases hneg : power < 0 <;> simp [p, Power.signed, hneg]
    have hfraction : f.fractionChars =
        if (Nat.toDigits 10 n).length = 1 then [] else '.' :: (Nat.toDigits 10 n).drop 1 := by
      rw [fractionChars]
      refine ite_congr (propext ?_) (fun _ => rfl) (fun _ => rfl)
      rw [List.drop_eq_nil_iff]
      omega
    rw [unsigned, hfraction, powerChars, ← hsigned, List.append_assoc]
    rfl
  · rw [value?_of_some (p := p) rfl (by rwa [hsignificand]) Nat.ofDigitChars_ten_toDigits hpower,
      Option.isSome_map, hsignificand]
    convert h using 3
    simp only [f, p, List.length_drop, Option.getD_some, decide_eq_true_eq]
    split <;> omega

/-- **A decimal is printed with figures that stand for a finite number**, if it is
computed as one. -/
theorem exists_decimal {d : Decimal} (hdigits : d.digits ≤ 10 ^ 17)
    (hzero : d.digits = 0 → d.exponent = 0)
    (hexponent : -417 < d.exponent ∧ d.exponent ≤ 308)
    (hfinite : (float? negative d.digits d.exponent).isSome = true) :
    ∃ f : Figures, f.negative = negative ∧ f.unsigned = d.chars floats ∧
      f.value?.isSome = true := by
  obtain ⟨n, e⟩ := d
  dsimp only at *
  have hpos : 0 < (Nat.toDigits 10 n).length := Nat.length_toDigits_pos
  have hlength : (Nat.toDigits 10 n).length ≤ 18 :=
    (Nat.length_toDigits_le_iff (by decide) (by decide)).2 (hdigits.trans_lt (by decide))
  have hfit : n ≤ significandLimit := hdigits.trans (by decide)
  rw [Decimal.chars]
  simp only [floats]
  split
  · split
    · next hpower he =>
      obtain ⟨e, rfl⟩ := Int.eq_ofNat_of_zero_le he
      rw [Int.toNat_natCast]
      refine exists_whole (fun h => by have := hzero h; omega) ?_
      have hlt : n < 10 ^ (Nat.toDigits 10 n).length :=
        (Nat.length_toDigits_le_iff (by decide) hpos).1 le_rfl
      have hgrow : 10 ^ ((Nat.toDigits 10 n).length + (e + 1)) ≤ 10 ^ 17 :=
        Nat.pow_le_pow_right (by decide) (by omega)
      rw [pow_add] at hgrow
      exact ((Nat.mul_le_mul_right _ hlt.le).trans hgrow).trans (by decide)
    · split
      · exact exists_split (Nat.succ_pos _) (by omega) hfit
      · exact exists_fraction _ hfit
  · next hpower =>
    have hn : 0 < n := Nat.pos_of_ne_zero fun h => by
      have := hzero h
      rw [h, Nat.toDigits_zero, List.length_singleton] at hpower
      omega
    have hback : (e + (Nat.toDigits 10 n).length - 1 : ℤ) - ((Nat.toDigits 10 n).length - 1 : ℕ) =
        e := by omega
    exact exists_power hn hfit (by rw [exponentLimit]; omega) (by rwa [hback])

end Figures

end Json

/-! ## Numbers -/

namespace Number

open Json (EndsNumber Figures readAtom)

/-- The figures of an integer stand for it. -/
theorem exists_integer {n : ℤ} (h : FitsInt n) :
    ∃ f : Figures, f.chars = intChars n ∧ f.value? = some (.integer n) := by
  obtain ⟨hlow, hhigh⟩ := h
  have hwhole : Json.IsWhole (Nat.toDigits 10 n.natAbs) := by
    simpa using Json.isWhole_append (n := n.natAbs) (e := 0) fun _ => rfl
  let f : Figures := ⟨decide (n < 0), Nat.toDigits 10 n.natAbs, [], none, hwhole, by simp⟩
  have hsignificand : f.significand = n.natAbs := by
    simp only [f, Figures.significand, List.append_nil, Nat.ofDigitChars_ten_toDigits]
  refine ⟨f, ?_, ?_⟩
  · simp [f, Figures.chars, Figures.unsigned, Figures.fractionChars, Figures.powerChars, intChars]
  · rw [Figures.value?_of_none rfl (by rw [hsignificand, Json.significandLimit]; omega), if_pos rfl,
      hsignificand, Json.integer?]
    by_cases hneg : n < 0
    · have hrange : 0 < n.natAbs ∧ n.natAbs ≤ 0x8000000000000000 := by omega
      have hback : -(n.natAbs : ℤ) = n := by omega
      simp only [f, hneg, decide_true, if_true, hrange, and_self, hback]
    · have hback : (n.natAbs : ℤ) = n := by omega
      simp only [f, hneg, decide_false, Bool.false_eq_true, if_false, hback]

/-- **The text of a number that fits has figures that stand for a number.** -/
theorem exists_figures {n : Number} (h : n.Fits) :
    ∃ f : Figures, f.chars = n.chars ∧ f.value?.isSome = true := by
  cases n with
  | integer n =>
    obtain ⟨f, hchars, hvalue⟩ := exists_integer h
    exact ⟨f, hchars, by rw [hvalue]; rfl⟩
  | float x =>
    obtain ⟨negative, x⟩ := x
    have hx : x.Normal := h
    obtain ⟨f, hnegative, hunsigned, hvalue⟩ := Figures.exists_decimal
      (Magnitude.shortest_spec hx).2 (Magnitude.shortest_exponent hx)
      (Magnitude.shortest_exponent_bounds hx) (Magnitude.isSome_float?_shortest hx negative)
    refine ⟨f, ?_, hvalue⟩
    rw [Figures.chars, hnegative, hunsigned, chars, Binary64.chars]

/-- The number that the text of a number is read as. -/
def reread (n : Number) : Number :=
  match readAtom (n.chars.map .char) with
  | .ok (.number m, _) => m
  | _ => n

theorem reread_of_figures {f : Figures} {n m : Number} (hchars : f.chars = n.chars)
    (hvalue : f.value? = some m) : n.reread = m := by
  have hread := Json.toOption_readAtom_chars f Json.endsNumber_nil
  rw [hvalue, Option.map_some, Json.toOption_eq_some_iff, List.append_nil, hchars] at hread
  rw [reread, hread]

/-- An integer is read as itself. -/
theorem reread_integer {n : ℤ} (h : FitsInt n) : (integer n).reread = integer n := by
  obtain ⟨f, hchars, hvalue⟩ := exists_integer h
  exact reread_of_figures hchars hvalue

/-- **A number that fits is read off its text as a number**, wherever it stands. -/
theorem readAtom_chars {n : Number} (h : n.Fits) {rest : Input} (hrest : EndsNumber rest) :
    readAtom (n.chars.map .char ++ rest) = .ok (.number n.reread, rest) := by
  obtain ⟨f, hchars, hvalue⟩ := exists_figures h
  obtain ⟨m, hm⟩ := Option.isSome_iff_exists.1 hvalue
  have hread := Json.toOption_readAtom_chars f hrest
  rw [hm, Option.map_some, Json.toOption_eq_some_iff, hchars] at hread
  rw [hread, reread_of_figures hchars hm]

/-- The number that `9.9002872444101148e10` is read as is read again as another one. -/
example : (Json.Literal.value ⟨false, [9], [9, 0, 0, 2, 8, 7, 2, 4, 4, 4, 1, 0, 1, 1, 4, 8],
    some (false, [1, 0])⟩).toOption.map (fun n => decide (n.reread = n)) = some false := by
  decide +kernel

end Number

end EventFeed
