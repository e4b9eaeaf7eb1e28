import EventFeed.Json.Reader.Number
import EventFeed.Proofs.Number.Shortest

/-!
# EventFeed.Proofs.Json.Floats

Floating-point numbers as the reader computes them.  Each of its roundings gives a
number in normal form (`normal_of_float?`).  None overflows while the power of ten is
negative (`isSome_float?_of_neg`).  For a positive power it is enough that the digits
as they are spelled are finite, in spite of the two roundings, but for one decimal
(`isSome_float?_of_nearest?`): `17976931348623158e292` is less than the least number
that overflows, and its significand is rounded up.  It is not the shortest decimal of
anything, so shortest decimals are read as finite numbers (`isSome_float?_shortest`).
-/

namespace EventFeed

namespace Magnitude

/-! ## Products and quotients -/

theorem ratio_mul (x y : Magnitude) :
    ((x.ratio.1 * y.ratio.1 : ℕ) : ℚ) / (x.ratio.2 * y.ratio.2 : ℕ) = x.value * y.value := by
  rw [← ratio_eq, ← ratio_eq, div_mul_div_comm]
  push_cast
  rfl

theorem ratio_div (x y : Magnitude) :
    ((x.ratio.1 * y.ratio.2 : ℕ) : ℚ) / (x.ratio.2 * y.ratio.1 : ℕ) = x.value / y.value := by
  rw [← ratio_eq, ← ratio_eq, div_div_div_eq]
  push_cast
  rfl

theorem value_nonneg (x : Magnitude) : 0 ≤ x.value :=
  mul_nonneg (Nat.cast_nonneg _) (two_zpow_pos _).le

/-- Only zero has no numerator. -/
theorem ratio_fst_pos {x : Magnitude} (h : 0 < x.value) : 0 < x.ratio.1 := by
  refine Nat.pos_of_ne_zero fun hzero => ?_
  rw [← ratio_eq, hzero, Nat.cast_zero, zero_div] at h
  exact lt_irrefl _ h

/-- What is finite stays so for lesser ratios. -/
theorem isSome_ofRatio?_of_le {num den num' den' : ℕ} (hden : 0 < den) (hden' : 0 < den')
    (hle : (num : ℚ) / den ≤ num' / den') (h : (ofRatio? num' den').isSome = true) :
    (ofRatio? num den).isSome = true := by
  obtain ⟨y, hy⟩ := Option.isSome_iff_exists.1 h
  obtain ⟨x, hx, -⟩ := ofRatio?_mono hden hden' hle hy
  rw [hx]
  rfl

theorem normal_of_mul? {x y z : Magnitude} (h : x.mul? y = some z) : z.Normal :=
  normal_of_ofRatio? (Nat.mul_pos x.ratio_pos y.ratio_pos) h

theorem normal_of_div? {x y z : Magnitude} (hy : 0 < y.value) (h : x.div? y = some z) :
    z.Normal :=
  normal_of_ofRatio? (Nat.mul_pos x.ratio_pos (ratio_fst_pos hy)) h

theorem normal_zero : zero.Normal := normal_of_ofRatio? Nat.one_pos (rfl : ofRatio? 0 1 = _)

/-- Lesser factors do not overflow either. -/
theorem isSome_mul?_of_le {x y p q : Magnitude} (hx : x.value ≤ y.value) (hp : p.value ≤ q.value)
    (h : (y.mul? q).isSome = true) : (x.mul? p).isSome = true := by
  refine isSome_ofRatio?_of_le (Nat.mul_pos x.ratio_pos p.ratio_pos)
    (Nat.mul_pos y.ratio_pos q.ratio_pos) ?_ h
  rw [ratio_mul, ratio_mul]
  exact mul_le_mul hx hp p.value_nonneg y.value_nonneg

/-- Division by one or more does not overflow. -/
theorem isSome_div? {x p : Magnitude} (hx : x.Normal) (hp : 1 ≤ p.value) :
    (x.div? p).isSome = true := by
  have hpos : 0 < p.value := by linarith
  refine isSome_ofRatio?_of_le (Nat.mul_pos x.ratio_pos (ratio_fst_pos hpos)) x.ratio_pos ?_
    (by rw [ofRatio?_ratio hx]; rfl)
  rw [ratio_div, ratio_eq]
  exact div_le_self x.value_nonneg hp

/-! ## Overflow -/

/-- The least natural number that is too great to be finite. -/
def overflow : ℕ := (2 ^ 54 - 1) * 2 ^ 970

/-- **A natural number is finite if and only if it is less than that.** -/
theorem isSome_ofRatio?_iff {n : ℕ} : (ofRatio? n 1).isSome = true ↔ n < overflow := by
  have hlimit : (ofRatio? (overflow - 1) 1).isSome = true ∧
      (ofRatio? overflow 1).isSome = false := by decide +kernel
  have hmono {n m : ℕ} (hle : n ≤ m) (h : (ofRatio? m 1).isSome = true) :
      (ofRatio? n 1).isSome = true := by
    refine isSome_ofRatio?_of_le Nat.one_pos Nat.one_pos ?_ h
    rw [Nat.cast_one, div_one, div_one]
    exact Nat.cast_le.2 hle
  constructor
  · intro h
    by_contra hge
    rw [hmono (Nat.not_lt.1 hge) h] at hlimit
    cases hlimit.2
  · exact fun h => hmono (Nat.le_sub_one_of_lt h) hlimit.1

/-- Where it lies, and the greatest digits that a number below it has in front of
`10 ^ 292`. -/
theorem overflow_bounds : 2 ^ 64 ≤ overflow ∧ 10 ^ 308 < overflow ∧ overflow ≤ 10 ^ 309 ∧
    (overflow - 1) / 10 ^ 292 = 17976931348623158 := by
  decide +kernel

/-- Digits other than zero overflow with a power of ten that does. -/
theorem lt_of_lt_overflow {n e m : ℕ} (hn : 0 < n) (h : n * 10 ^ e < overflow)
    (hm : overflow ≤ 10 ^ m) : e < m := by
  by_contra hge
  have hgrow : 10 ^ m ≤ 10 ^ e := Nat.pow_le_pow_right (by decide) (Nat.not_lt.1 hge)
  have hmul := Nat.le_mul_of_pos_left (10 ^ e) hn
  omega

/-! ## Powers of ten -/

/-- Powers of ten are rounded to greater ones, the greater they are. -/
theorem powerOfTen?_of_le {k m : ℕ} (hle : k ≤ m) {q : Magnitude} (h : powerOfTen? m = some q) :
    ∃ p, powerOfTen? k = some p ∧ p.value ≤ q.value := by
  refine ofRatio?_mono Nat.one_pos Nat.one_pos ?_ h
  rw [Nat.cast_one, div_one, div_one]
  exact Nat.cast_le.2 (Nat.pow_le_pow_right (by decide) hle)

theorem isSome_powerOfTen?_iff {k : ℕ} : (powerOfTen? k).isSome = true ↔ 10 ^ k < overflow :=
  isSome_ofRatio?_iff

/-- One is rounded to one. -/
theorem powerOfTen?_zero : powerOfTen? 0 = some ⟨2 ^ 52, -52⟩ := by
  have hone : (⟨2 ^ 52, -52⟩ : Magnitude).Normal :=
    ⟨by decide, by decide, by decide, .inr (by decide)⟩
  rw [powerOfTen?, ← ofRatio?_ratio hone]
  refine ofRatio?_congr Nat.one_pos (ratio_pos _) ?_
  rw [ratio_eq, value]
  norm_num

/-- The powers of ten that are applied at once are finite, and one or more. -/
theorem powerOfTen?_spec {k : ℕ} (h : k ≤ 308) : ∃ p, powerOfTen? k = some p ∧ 1 ≤ p.value := by
  obtain ⟨q, hq⟩ := Option.isSome_iff_exists.1 (isSome_powerOfTen?_iff.2 overflow_bounds.2.1)
  obtain ⟨p, hp, -⟩ := powerOfTen?_of_le h hq
  obtain ⟨x, hx, hone⟩ := powerOfTen?_of_le (Nat.zero_le k) hp
  obtain rfl := Option.some.inj (hx.symm.trans powerOfTen?_zero)
  refine ⟨p, hp, le_trans ?_ hone⟩
  rw [value]
  norm_num

end Magnitude

namespace Json

open Magnitude (ofRatio?)

/-! ## Scaling -/

/-- What is scaled stays in normal form. -/
theorem normal_of_scaled? {fuel : ℕ} {x y : Magnitude} {e : ℤ} (hx : x.Normal)
    (h : scaled? fuel x e = some y) : y.Normal := by
  fun_induction scaled? fuel x e with
  | case1 fuel x e hat =>
    obtain ⟨p, hp, hone⟩ := Magnitude.powerOfTen?_spec hat
    rw [hp, Option.bind_some] at h
    split at h
    · exact Magnitude.normal_of_mul? h
    · exact Magnitude.normal_of_div? (by linarith) h
  | case2 => exact Option.some.inj h ▸ hx
  | case3 => cases h
  | case4 =>
    cases h
    exact Magnitude.normal_zero
  | case5 x e _ _ _ fuel ih =>
    obtain ⟨p, hp, hone⟩ := Magnitude.powerOfTen?_spec (le_refl 308)
    rw [hp, Option.bind_some, Option.bind_eq_some_iff] at h
    obtain ⟨z, hz, h⟩ := h
    exact ih z (Magnitude.normal_of_div? (by linarith) hz) h

/-- A negative power of ten overflows nothing. -/
theorem isSome_scaled?_of_neg (fuel : ℕ) {x : Magnitude} {e : ℤ} (hx : x.Normal) (he : e < 0) :
    (scaled? fuel x e).isSome = true := by
  fun_induction scaled? fuel x e with
  | case1 fuel x e hat =>
    obtain ⟨p, hp, hone⟩ := Magnitude.powerOfTen?_spec hat
    rw [hp, Option.bind_some, if_neg (not_le.2 he)]
    exact Magnitude.isSome_div? hx hone
  | case2 => rfl
  | case3 _ _ _ _ _ hpos => exact absurd he (not_lt.2 hpos)
  | case4 => rfl
  | case5 x e _ _ _ fuel ih =>
    obtain ⟨p, hp, hone⟩ := Magnitude.powerOfTen?_spec (le_refl 308)
    obtain ⟨y, hy⟩ := Option.isSome_iff_exists.1 (Magnitude.isSome_div? hx hone)
    rw [hp, Option.bind_some, hy, Option.bind_some]
    exact ih y (Magnitude.normal_of_div? (by linarith) hy) (by omega)

/-- Where a power that is applied at once does not overflow, no lesser one does, nor for
a lesser number. -/
theorem isSome_scaled?_of_le {fuel : ℕ} {x y : Magnitude} {e e' : ℕ} (he : e ≤ e') (hmax : e' ≤ 308)
    (hle : x.value ≤ y.value) (h : (scaled? fuel y e').isSome = true) :
    (scaled? fuel x e).isSome = true := by
  obtain ⟨q, hq, -⟩ := Magnitude.powerOfTen?_spec hmax
  obtain ⟨p, hp, hpower⟩ := Magnitude.powerOfTen?_of_le he hq
  have happlied (z r : Magnitude) {k : ℕ} (hk : k ≤ 308) (hr : Magnitude.powerOfTen? k = some r) :
      scaled? fuel z k = z.mul? r := by
    cases fuel <;>
      rw [scaled?, Int.natAbs_natCast, if_pos hk, hr, Option.bind_some,
        if_pos (Int.natCast_nonneg k)]
  rw [happlied y q hmax hq] at h
  rw [happlied x p (he.trans hmax) hp]
  exact Magnitude.isSome_mul?_of_le hle hpower h

/-! ## Significands and powers -/

/-- A significand of 64 bits is finite. -/
theorem exists_ofRatio?_significand {n : ℕ} (h : n ≤ significandLimit) :
    ∃ x, ofRatio? n 1 = some x ∧ x.Normal := by
  have hlt : n < Magnitude.overflow :=
    (Nat.lt_succ_of_le h : n < 2 ^ 64).trans_le Magnitude.overflow_bounds.1
  obtain ⟨x, hx⟩ := Option.isSome_iff_exists.1 (Magnitude.isSome_ofRatio?_iff.2 hlt)
  exact ⟨x, hx, Magnitude.normal_of_ofRatio? Nat.one_pos hx⟩

/-- **Numbers that are computed are in normal form.** -/
theorem normal_of_float? {negative : Bool} {n : ℕ} {e : ℤ} {x : Binary64}
    (h : float? negative n e = some x) : x.magnitude.Normal := by
  obtain ⟨y, hy, h⟩ := Option.bind_eq_some_iff.1 h
  obtain ⟨z, hz, h⟩ := Option.bind_eq_some_iff.1 h
  cases h
  exact normal_of_scaled? (Magnitude.normal_of_ofRatio? Nat.one_pos hy) hz

theorem isSome_float?_eq {negative : Bool} {n : ℕ} {e : ℤ} {x : Magnitude}
    (h : ofRatio? n 1 = some x) : (float? negative n e).isSome = (scaled? 2 x e).isSome := by
  simp only [float?, h, bind, Option.bind, pure]
  cases scaled? 2 x e <;> rfl

/-- **With a negative power of ten every significand is finite.** -/
theorem isSome_float?_of_neg (negative : Bool) {n : ℕ} (h : n ≤ significandLimit) {e : ℤ}
    (he : e < 0) : (float? negative n e).isSome = true := by
  obtain ⟨x, hx, hnormal⟩ := exists_ofRatio?_significand h
  rw [isSome_float?_eq hx]
  exact isSome_scaled?_of_neg 2 hnormal he

/-- A lesser significand is finite, too, and so it is with a lesser power of ten. -/
theorem isSome_float?_of_le {negative negative' : Bool} {n n' e e' : ℕ} (he : e ≤ e')
    (hmax : e' ≤ 308) (hle : n ≤ n') (h : (float? negative' n' e').isSome = true) :
    (float? negative n e).isSome = true := by
  obtain ⟨z, hz⟩ := Option.isSome_iff_exists.1 h
  obtain ⟨y, hy, -⟩ := Option.bind_eq_some_iff.1 hz
  have hratio : (n : ℚ) / (1 : ℕ) ≤ n' / (1 : ℕ) := by
    rw [Nat.cast_one, div_one, div_one]
    exact_mod_cast hle
  obtain ⟨x, hx, hvalue⟩ := Magnitude.ofRatio?_mono Nat.one_pos Nat.one_pos hratio hy
  rw [isSome_float?_eq hy] at h
  rw [isSome_float?_eq hx]
  exact isSome_scaled?_of_le he hmax hvalue h

/-! ## Decimals -/

/-- The greatest digits, of seventeen at most, that are finite with a power of ten from
`10 ^ 291` on; for `10 ^ 292` they are the last but one. -/
def mostDigits (e : ℕ) : ℕ :=
  if e = 292 then 17976931348623157 else min (10 ^ 17) ((Magnitude.overflow - 1) / 10 ^ e)

/-- These digits do not overflow in the two roundings; for `10 ^ 291` they are all. -/
theorem isSome_float?_mostDigits : 10 ^ 17 ≤ mostDigits 291 ∧
    ∀ k ≤ 17, (float? false (mostDigits (291 + k)) ((291 + k : ℕ) : ℤ)).isSome = true := by
  decide +kernel

/-- The whole number that a decimal is, if it is finite. -/
theorem lt_overflow_of_nearest? {n e : ℕ} (h : (⟨n, e⟩ : Decimal).nearest?.isSome = true) :
    n * 10 ^ e < Magnitude.overflow := by
  rw [Decimal.nearest?, Decimal.ratio, if_pos (Int.natCast_nonneg e), Int.toNat_natCast] at h
  exact Magnitude.isSome_ofRatio?_iff.1 h

/-- A power of ten beyond `308` leaves room for zero only. -/
theorem exponent_le_of_nearest? {d : Decimal} (hzero : d.digits = 0 → d.exponent = 0)
    (h : d.nearest?.isSome = true) : d.exponent ≤ 308 := by
  obtain ⟨n, e⟩ := d
  dsimp only at *
  rcases lt_or_ge e 0 with hneg | hpos
  · omega
  obtain ⟨e, rfl⟩ := Int.eq_ofNat_of_zero_le hpos
  rcases Nat.eq_zero_or_pos n with hn | hn
  · have := hzero hn
    omega
  · have := Magnitude.lt_of_lt_overflow hn (lt_overflow_of_nearest? h)
      Magnitude.overflow_bounds.2.2.1
    omega

/-- **A decimal is read as a finite number** if it is rounded to one, unless it is the
one whose significand is rounded up beyond all that are. -/
theorem isSome_float?_of_nearest? {d : Decimal} (hdigits : d.digits ≤ 10 ^ 17)
    (hzero : d.digits = 0 → d.exponent = 0) (hne : d ≠ ⟨17976931348623158, 292⟩)
    (hfinite : d.nearest?.isSome = true) (negative : Bool) :
    (float? negative d.digits d.exponent).isSome = true := by
  have he := exponent_le_of_nearest? hzero hfinite
  obtain ⟨n, e⟩ := d
  dsimp only at *
  rcases lt_or_ge e 0 with hneg | hpos
  · exact isSome_float?_of_neg negative (hdigits.trans (by decide)) hneg
  obtain ⟨e, rfl⟩ := Int.eq_ofNat_of_zero_le hpos
  rcases le_or_gt e 291 with hsmall | hgreat
  · exact isSome_float?_of_le hsmall (by decide) (hdigits.trans isSome_float?_mostDigits.1)
      (isSome_float?_mostDigits.2 0 (by decide))
  have hquotient : n ≤ (Magnitude.overflow - 1) / 10 ^ e :=
    (Nat.le_div_iff_mul_le (Nat.pow_pos (by decide))).2
      (Nat.le_sub_one_of_lt (lt_overflow_of_nearest? hfinite))
  obtain ⟨k, rfl⟩ : ∃ k, e = 291 + k := ⟨e - 291, by omega⟩
  refine isSome_float?_of_le le_rfl (by omega) ?_ (isSome_float?_mostDigits.2 k (by omega))
  rw [mostDigits]
  split
  · next heq =>
    rw [heq, Magnitude.overflow_bounds.2.2.2] at hquotient
    have hother : n ≠ 17976931348623158 := by
      rintro rfl
      exact hne (by rw [heq]; rfl)
    omega
  · exact Nat.le_min.2 ⟨hdigits, hquotient⟩

/-! ## Shortest decimals -/

/-- The exponent of a decimal of seventeen digits that is not rounded to zero. -/
theorem lt_exponent_of_nearest? {d : Decimal} (hdigits : d.digits ≤ 10 ^ 17) {x : Magnitude}
    (h : d.nearest? = some x) (hpos : 0 < x.mantissa) : -417 < d.exponent := by
  by_contra hge
  have hten : (10 : ℚ) ≠ 0 := by norm_num
  have hsmall : d.value ≤ (⟨1, -400⟩ : Decimal).value := by
    calc d.value ≤ 10 ^ 17 * 10 ^ (-417 : ℤ) :=
          mul_le_mul (by exact_mod_cast hdigits)
            (zpow_le_zpow_right₀ (by norm_num) (Int.not_lt.1 hge))
            (Decimal.ten_zpow_pos _).le (by positivity)
      _ = (⟨1, -400⟩ : Decimal).value := by
          rw [Decimal.value, Nat.cast_one, one_mul, ← zpow_natCast, ← zpow_add₀ hten]
          norm_num
  have hzero : (⟨1, -400⟩ : Decimal).nearest? = some Magnitude.zero := by decide +kernel
  rw [← Decimal.ratio_eq, ← Decimal.ratio_eq] at hsmall
  obtain ⟨y, hy, hvalue⟩ :=
    Magnitude.ofRatio?_mono (Decimal.ratio_pos d) (Decimal.ratio_pos _) hsmall hzero
  obtain rfl := Option.some.inj (h.symm.trans hy)
  have hgreater : 0 < x.value :=
    mul_pos (by exact_mod_cast hpos) (Magnitude.two_zpow_pos x.exponent)
  have hnothing : Magnitude.zero.value = 0 := by simp [Magnitude.value, Magnitude.zero]
  linarith

end Json

namespace Magnitude

/-- Only zero has a shortest decimal without digits. -/
theorem shortest_exponent {x : Magnitude} (hx : x.Normal) (h : x.shortest.digits = 0) :
    x.shortest.exponent = 0 := by
  obtain ⟨hread, -⟩ := shortest_spec hx
  have hvalue : x.shortest.value = (⟨0, 0⟩ : Decimal).value := by
    rw [Decimal.value, h, Decimal.value, Nat.cast_zero, zero_mul, zero_mul]
  rw [Decimal.nearest?_congr hvalue] at hread
  obtain rfl : zero = x := Option.some.inj hread
  rfl

/-- The exponents of shortest decimals. -/
theorem shortest_exponent_bounds {x : Magnitude} (hx : x.Normal) :
    -417 < x.shortest.exponent ∧ x.shortest.exponent ≤ 308 := by
  obtain ⟨hread, hdigits⟩ := shortest_spec hx
  constructor
  · rcases Nat.eq_zero_or_pos x.mantissa with hzero | hpos
    · rw [eq_zero_of_mantissa hx hzero]
      decide
    · exact Json.lt_exponent_of_nearest? hdigits hread hpos
  · exact Json.exponent_le_of_nearest? (shortest_exponent hx) (by rw [hread]; rfl)

/-- **The shortest decimal of a magnitude is read as a finite number.** -/
theorem isSome_float?_shortest {x : Magnitude} (hx : x.Normal) (negative : Bool) :
    (Json.float? negative x.shortest.digits x.shortest.exponent).isSome = true := by
  obtain ⟨hread, hdigits⟩ := shortest_spec hx
  refine Json.isSome_float?_of_nearest? hdigits (shortest_exponent hx) (fun heq => ?_)
    (by rw [hread]; rfl) negative
  -- the exception is rounded to the greatest number, whose shortest decimal is another one
  have hgreatest : (⟨17976931348623158, 292⟩ : Decimal).nearest? =
      some ⟨2 ^ 53 - 1, maxExponent⟩ ∧
        shortest ⟨2 ^ 53 - 1, maxExponent⟩ ≠ ⟨17976931348623158, 292⟩ := by decide +kernel
  rw [heq, hgreatest.1] at hread
  obtain rfl := Option.some.inj hread
  exact hgreatest.2 heq

end Magnitude

end EventFeed
