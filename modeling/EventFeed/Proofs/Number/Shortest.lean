import EventFeed.Number.Shortest
import EventFeed.Proofs.Number.Rounding
import Mathlib.Data.Nat.Cast.Order.Field

/-!
# EventFeed.Proofs.Number.Shortest

The shortest decimal of a magnitude is rounded to that magnitude (`shortest_spec`).

The printer tries one grid after the other, and takes what is rounded to the magnitude.
That the last one, of seventeen digits, has such a decimal is the reason why it never
falls back on the whole expansion: its steps are at most a part in `10 ^ 16` of the
value, while the neighbours of a magnitude are more than a part in `2 ^ 53` away
(`isSome_onGrid?`).
-/

namespace EventFeed

namespace Decimal

/-! ## Values -/

/-- The number that a decimal stands for. -/
def value (d : Decimal) : ℚ := d.digits * 10 ^ d.exponent

theorem ten_zpow_pos (e : ℤ) : (0 : ℚ) < 10 ^ e := by positivity

theorem ratio_pos (d : Decimal) : 0 < d.ratio.2 := by
  rw [ratio]
  split
  · exact Nat.one_pos
  · exact Nat.pow_pos (by decide)

/-- The ratio of a decimal is its value. -/
theorem ratio_eq (d : Decimal) : (d.ratio.1 : ℚ) / d.ratio.2 = d.value := by
  rw [ratio, value]
  by_cases h : 0 ≤ d.exponent
  · rw [if_pos h, zpow_toNat h, Nat.pow_eq]
    push_cast
    exact div_one _
  · rw [if_neg h, zpow_neg_toNat h, Nat.pow_eq]
    push_cast
    exact div_eq_mul_inv _ _

/-- Decimals of one value are rounded alike. -/
theorem nearest?_congr {d d' : Decimal} (h : d.value = d'.value) : d.nearest? = d'.nearest? :=
  Magnitude.ofRatio?_congr d.ratio_pos d'.ratio_pos (by rw [ratio_eq, ratio_eq, h])

/-- Zeros at the end do not count. -/
theorem stripZeros_spec (fuel : ℕ) (d : Decimal) :
    (stripZeros fuel d).value = d.value ∧ (stripZeros fuel d).digits ≤ d.digits := by
  induction fuel generalizing d with
  | zero => exact ⟨rfl, le_rfl⟩
  | succ fuel ih =>
    rw [stripZeros]
    split
    · next h =>
      obtain ⟨hvalue, hdigits⟩ := ih ⟨d.digits / 10, d.exponent + 1⟩
      refine ⟨hvalue.trans ?_, hdigits.trans (Nat.div_le_self _ _)⟩
      have hdigits : (d.digits : ℚ) = (d.digits / 10 : ℕ) * 10 := by
        exact_mod_cast (Nat.div_mul_cancel (Nat.dvd_of_mod_eq_zero h.2)).symm
      rw [value, value, hdigits, zpow_add_one₀ (by norm_num)]
      ring
    · exact ⟨rfl, le_rfl⟩

end Decimal

namespace Magnitude

open Decimal (ten_zpow_pos)

/-! ## The leading power of ten -/

theorem tenPowerLe_iff (p : ℤ) (num : ℕ) {den : ℕ} (hden : 0 < den) :
    tenPowerLe p num den = true ↔ (10 : ℚ) ^ p ≤ num / den := by
  have hpos : (0 : ℚ) < den := by exact_mod_cast hden
  rw [tenPowerLe, le_div_iff₀ hpos]
  split
  · next h =>
    rw [decide_eq_true_eq, zpow_toNat h, Nat.pow_eq, ← Nat.cast_le (α := ℚ), mul_comm]
    push_cast
    rfl
  · next h =>
    rw [decide_eq_true_eq, zpow_neg_toNat h, Nat.pow_eq, ← Nat.cast_le (α := ℚ),
      inv_mul_le_iff₀ (by positivity), mul_comm]
    push_cast
    rfl

/-- If `b / a` is less than the logarithm of two and close to it, a power of ten with at
most that part of a binary exponent is at most twice the power of two. -/
theorem ten_pow_le {a b g j : ℕ} (hab : 10 ^ b ≤ 2 ^ (a + 1)) (hg : a * g ≤ b * j) (hj : j ≤ a)
    (ha : a ≠ 0) : 10 ^ g ≤ 2 * 2 ^ j := by
  refine (Nat.pow_le_pow_iff_left ha).1 ?_
  calc (10 ^ g) ^ a = 10 ^ (a * g) := by rw [← pow_mul, mul_comm]
    _ ≤ 10 ^ (b * j) := Nat.pow_le_pow_right (by decide) hg
    _ = (10 ^ b) ^ j := pow_mul _ _ _
    _ ≤ (2 ^ (a + 1)) ^ j := Nat.pow_le_pow_left hab j
    _ = 2 ^ j * 2 ^ (a * j) := by rw [← pow_mul, ← pow_add, Nat.succ_mul, add_comm]
    _ ≤ 2 ^ a * 2 ^ (a * j) := Nat.mul_le_mul_right _ (Nat.pow_le_pow_right (by decide) hj)
    _ = (2 * 2 ^ j) ^ a := by rw [mul_pow, ← pow_mul, mul_comm j]

/-- The other way round, a power of ten with at least that part is no less. -/
theorem two_pow_le {a b g j : ℕ} (hab : 2 ^ a ≤ 10 ^ b) (hg : b * j ≤ a * g) (ha : a ≠ 0) :
    2 ^ j ≤ 10 ^ g := by
  refine (Nat.pow_le_pow_iff_left ha).1 ?_
  calc (2 ^ j) ^ a = (2 ^ a) ^ j := by rw [← pow_mul, ← pow_mul, mul_comm]
    _ ≤ (10 ^ b) ^ j := Nat.pow_le_pow_left hab j
    _ = 10 ^ (b * j) := (pow_mul _ _ _).symm
    _ ≤ 10 ^ (a * g) := Nat.pow_le_pow_right (by decide) hg
    _ = (10 ^ g) ^ a := by rw [← pow_mul, mul_comm]

/-- The estimate of the model: `30103 / 100000` is close to the logarithm of two. -/
theorem ten_pow_near : 2 ^ 100000 ≤ 10 ^ 30103 ∧ 10 ^ 30103 ≤ 2 ^ (100000 + 1) := by
  decide +kernel

/-- How far that part of a binary exponent, rounded down, is from the decimal one. -/
theorem estimate_down {j g : ℕ} (hj : j ≤ 100000) (hg : 100000 * g ≤ 30103 * j)
    (hg' : 30103 * j ≤ 100000 * (g + 1)) : 2 * 2 ^ j ≤ 100 * 10 ^ g ∧ 10 ^ g ≤ 5 * 2 ^ j := by
  have hless : 10 ^ g ≤ 2 * 2 ^ j := ten_pow_le ten_pow_near.2 hg hj (by decide)
  have hmore : 2 ^ j ≤ 10 ^ (g + 1) := two_pow_le ten_pow_near.1 hg' (by decide)
  rw [pow_succ] at hmore
  omega

/-- The same for that part rounded up. -/
theorem estimate_up {j g : ℕ} (hj : j ≤ 100000) (hg : 30103 * j ≤ 100000 * g)
    (hg' : 100000 * (g - 1) ≤ 30103 * j) : 10 ^ g ≤ 50 * 2 ^ j ∧ 2 ^ j ≤ 5 * 10 ^ g := by
  have hless : 10 ^ (g - 1) ≤ 2 * 2 ^ j := ten_pow_le ten_pow_near.2 hg' hj (by decide)
  have hmore : 2 ^ j ≤ 10 ^ g := two_pow_le ten_pow_near.1 hg (by decide)
  have hstep : 10 ^ g ≤ 10 ^ (g - 1) * 10 := by
    rw [← pow_succ]
    exact Nat.pow_le_pow_right (by decide) (by omega)
  omega

/-- **The estimate is at most one off.** -/
theorem estimate {k : ℤ} (hlow : -100000 ≤ k) (hhigh : k ≤ 100000) :
    (2 : ℚ) ^ (k + 1) ≤ 10 ^ (k * 30103 / 100000 + 2) ∧
      (10 : ℚ) ^ (k * 30103 / 100000 - 1) ≤ 2 ^ (k - 1) := by
  have h10 : (10 : ℚ) ≠ 0 := by norm_num
  rw [zpow_add_one₀ two_ne_zero, zpow_sub_one₀ two_ne_zero, zpow_sub_one₀ h10, zpow_add₀ h10]
  obtain ⟨j, rfl | rfl⟩ := k.eq_nat_or_neg
  · obtain ⟨g, hg⟩ : ∃ g : ℕ, (j : ℤ) * 30103 / 100000 = g := ⟨j * 30103 / 100000, by omega⟩
    obtain ⟨habove, hbelow⟩ := estimate_down (j := j) (g := g) (by omega) (by omega) (by omega)
    rw [hg, zpow_natCast, zpow_natCast]
    have habove' : (2 : ℚ) * 2 ^ j ≤ 100 * 10 ^ g := by exact_mod_cast habove
    have hbelow' : (10 : ℚ) ^ g ≤ 5 * 2 ^ j := by exact_mod_cast hbelow
    constructor
    · norm_num
      linarith
    · linarith
  · obtain ⟨g, hg⟩ : ∃ g : ℕ, -(j : ℤ) * 30103 / 100000 = -g :=
      ⟨(j * 30103 + 99999) / 100000, by omega⟩
    obtain ⟨habove, hbelow⟩ := estimate_up (j := j) (g := g) (by omega) (by omega) (by omega)
    rw [hg, zpow_neg, zpow_neg, zpow_natCast, zpow_natCast]
    have habove' : (10 : ℚ) ^ g ≤ 50 * 2 ^ j := by exact_mod_cast habove
    have hbelow' : (2 : ℚ) ^ j ≤ 5 * 10 ^ g := by exact_mod_cast hbelow
    have h2 : (0 : ℚ) < 2 ^ j := by positivity
    have hg : (0 : ℚ) < 10 ^ g := by positivity
    constructor
    · rw [inv_mul_eq_div, inv_mul_eq_div, div_le_div_iff₀ h2 hg]
      norm_num
      linarith
    · rw [← div_eq_mul_inv, ← div_eq_mul_inv, inv_eq_one_div, inv_eq_one_div, div_div, div_div,
        div_le_div_iff₀ (by positivity) (by positivity)]
      linarith

/-- **The leading power of ten** is that of the leading digit. -/
theorem leadingPower_spec {num den : ℕ} (hnum : 0 < num) (hden : 0 < den)
    (hlow : (2 : ℚ) ^ (-1074 : ℤ) ≤ num / den) (hhigh : (num : ℚ) / den < 2 ^ (1024 : ℤ)) :
    (10 : ℚ) ^ leadingPower num den ≤ num / den ∧
      (num : ℚ) / den < 10 ^ (leadingPower num den + 1) := by
  obtain ⟨hbelow, habove⟩ := ratio_lt_zpow hnum hden
  generalize hk : (num.log2 : ℤ) - den.log2 = k at hbelow habove
  have hrange : -100000 ≤ k ∧ k ≤ 100000 := by
    have hleast := (zpow_lt_zpow_iff_right₀ (one_lt_two (α := ℚ))).1 (hlow.trans_lt habove)
    have hgreatest := (zpow_lt_zpow_iff_right₀ (one_lt_two (α := ℚ))).1 (hbelow.trans hhigh)
    omega
  obtain ⟨hmost, hleast⟩ := estimate hrange.1 hrange.2
  rw [leadingPower, hk]
  generalize k * 30103 / 100000 = guess at *
  split
  · next h => exact ⟨(tenPowerLe_iff _ _ hden).1 h, habove.trans_le (by rwa [add_assoc])⟩
  next hless =>
  rw [tenPowerLe_iff _ _ hden, not_le] at hless
  split
  · next h => exact ⟨(tenPowerLe_iff _ _ hden).1 h, hless⟩
  · next h =>
    rw [tenPowerLe_iff _ _ hden, not_le] at h
    exact ⟨(hleast.trans_lt hbelow).le, by rwa [sub_add_cancel]⟩

/-! ## Grids -/

/-- The neighbour of a value on a grid that is nearer, or even and as near. -/
def gridNearest (k : ℤ) (num den : ℕ) : ℕ :=
  if (gridBelow k num den).2 then (gridBelow k num den).1 + 1 else (gridBelow k num den).1

/-- The neighbours of a value on a grid: one is not above it, and one is nearest. -/
theorem gridBelow_spec (k : ℤ) (num : ℕ) {den : ℕ} (hden : 0 < den) :
    ((gridBelow k num den).1 : ℚ) ≤ num / den / 10 ^ k ∧
      |(num : ℚ) / den / 10 ^ k - gridNearest k num den| ≤ 1 / 2 := by
  let n := if 0 ≤ k then num else num * Nat.pow 10 (-k).toNat
  let d := if 0 ≤ k then den * Nat.pow 10 k.toNat else den
  have hd : 0 < d := by
    simp only [d]
    split
    · exact Nat.mul_pos hden (Nat.pow_pos (by decide))
    · exact hden
  have hratio : (num : ℚ) / den / 10 ^ k = n / d := by
    by_cases h : 0 ≤ k
    · simp only [n, d, if_pos h]
      rw [zpow_toNat h, div_div, Nat.pow_eq]
      push_cast
      rfl
    · simp only [n, d, if_neg h]
      rw [zpow_neg_toNat h, div_inv_eq_mul, div_mul_eq_mul_div, Nat.pow_eq]
      push_cast
      rfl
  have hnearest : gridNearest k num den = divideToEven n d := by
    rw [gridNearest, gridBelow, divideToEven, Bool.beq_comm (a := d)]
  rw [hratio, hnearest]
  exact ⟨Nat.cast_div_le, (divideToEven_near n hd).1⟩

/-- On a grid `n` places finer than the leading power of ten, values have `n + 1` digits. -/
theorem gridBelow_lt {p : ℤ} {num den : ℕ} (hden : 0 < den)
    (h : (num : ℚ) / den < 10 ^ (p + 1)) (n : ℕ) :
    (gridBelow (p - n) num den).1 < 10 ^ (n + 1) := by
  have hlt : ((gridBelow (p - n) num den).1 : ℚ) < 10 ^ (n + 1) := by
    refine (gridBelow_spec (p - n) num hden).1.trans_lt ?_
    have hsame : ((n + 1 : ℕ) : ℤ) + (p - n) = p + 1 := by
      push_cast
      ring
    rwa [div_lt_iff₀ (ten_zpow_pos _), ← zpow_natCast, ← zpow_add₀ (by norm_num), hsame]
  exact_mod_cast hlt

/-- What a grid gives is one of the two neighbours, and is rounded to the magnitude. -/
theorem onGrid?_spec {x : Magnitude} {k : ℤ} {d : Decimal} (h : onGrid? x k = some d) :
    d.nearest? = some x ∧ d.exponent = k ∧
      d.digits ≤ (gridBelow k x.ratio.1 x.ratio.2).1 + 1 := by
  simp only [onGrid?] at h
  split at h <;>
    simp only [Option.orElse_eq_orElse, Option.orElse_eq_or, Option.or_eq_some_iff,
      Option.ite_none_right_eq_some, Option.some.injEq] at h
  · obtain ⟨hread, rfl⟩ | ⟨-, hread, rfl⟩ := h
    · exact ⟨hread, rfl, le_rfl⟩
    · exact ⟨hread, rfl, Nat.le_succ _⟩
  · obtain ⟨hread, rfl⟩ | ⟨-, hread, rfl⟩ := h
    · exact ⟨hread, rfl, Nat.le_succ _⟩
    · exact ⟨hread, rfl, le_rfl⟩

/-- A grid gives something if its nearest number is rounded to the magnitude. -/
theorem isSome_onGrid?_of_nearest {x : Magnitude} {k : ℤ}
    (h : (Decimal.mk (gridNearest k x.ratio.1 x.ratio.2) k).nearest? = some x) :
    (onGrid? x k).isSome = true := by
  rw [gridNearest] at h
  simp only [onGrid?]
  split
  · next hup =>
    rw [if_pos hup] at h
    simp [h]
  · next hup =>
    rw [if_neg hup] at h
    simp [h]

/-- **Seventeen digits suffice**: a grid with steps of a part in `10 ^ 16` has a number
that is rounded to the magnitude. -/
theorem isSome_onGrid? {x : Magnitude} (hx : x.Normal) {k : ℤ}
    (hk : (10 : ℚ) ^ 16 * 10 ^ k ≤ x.value) : (onGrid? x k).isSome = true := by
  refine isSome_onGrid?_of_nearest (ofRatio?_of_near (Decimal.ratio_pos _) hx ?_)
  have hstep := ten_zpow_pos k
  have hp := two_zpow_pos x.exponent
  obtain ⟨-, hnear⟩ := gridBelow_spec k x.ratio.1 x.ratio_pos
  rw [ratio_eq] at hnear
  rw [Decimal.ratio_eq, Decimal.value]
  dsimp only
  generalize (gridNearest k x.ratio.1 x.ratio.2 : ℚ) = c at *
  have hdistance : |c * 10 ^ k - x.value| ≤ 10 ^ k / 2 := by
    have hscaled : c * 10 ^ k - x.value = -((x.value / 10 ^ k - c) * 10 ^ k) := by
      field_simp
      ring
    rw [hscaled, abs_neg, abs_mul, abs_of_pos hstep]
    linarith [mul_le_mul_of_nonneg_right hnear hstep.le]
  have hm : (x.mantissa : ℚ) + 1 ≤ 2 ^ 53 := by exact_mod_cast hx.mantissa_lt
  rw [value] at hk
  constructor
  · refine hdistance.trans_lt ?_
    nlinarith
  · intro hpow
    rw [hpow] at hk
    have := (abs_le.1 hdistance).1
    push_cast at hk
    linarith

/-! ## The shortest decimal -/

/-- Magnitudes are finite, and only zero is less than the least one. -/
theorem value_bounds {x : Magnitude} (hx : x.Normal) (hpos : 0 < x.mantissa) :
    (2 : ℚ) ^ (-1074 : ℤ) ≤ x.value ∧ x.value < 2 ^ (1024 : ℤ) := by
  have hone : (1 : ℚ) ≤ x.mantissa := by exact_mod_cast hpos
  have hm : (x.mantissa : ℚ) < 2 ^ 53 := by exact_mod_cast hx.mantissa_lt
  have hp := two_zpow_pos x.exponent
  constructor
  · calc (2 : ℚ) ^ (-1074 : ℤ) ≤ 2 ^ x.exponent := zpow_le_zpow_right₀ one_le_two hx.least
      _ ≤ x.value := le_mul_of_one_le_left hp.le hone
  · calc x.value < 2 ^ 53 * 2 ^ x.exponent := mul_lt_mul_of_pos_right hm hp
      _ = 2 ^ (53 + x.exponent) := by
          rw [zpow_add₀ two_ne_zero]
          rfl
      _ ≤ 2 ^ (1024 : ℤ) := zpow_le_zpow_right₀ one_le_two (Int.add_le_add_left hx.greatest 53)

/-- The shortest decimal of a magnitude other than zero is that of some grid, without
zeros at its end. -/
theorem shortest_eq {x : Magnitude} (hx : x.Normal) (hpos : 0 < x.mantissa) :
    ∃ d : Decimal, x.shortest = Decimal.stripZeros 17 d ∧ d.nearest? = some x ∧
      d.digits ≤ 10 ^ 17 := by
  obtain ⟨hleast, hgreatest⟩ := value_bounds hx hpos
  rw [← ratio_eq] at hleast hgreatest
  have hnum : 0 < x.ratio.1 := by
    refine Nat.pos_of_ne_zero fun hzero => ?_
    rw [hzero, Nat.cast_zero, zero_div] at hleast
    exact absurd hleast (not_le.2 (two_zpow_pos _))
  obtain ⟨hbelow, habove⟩ := leadingPower_spec hnum x.ratio_pos hleast hgreatest
  generalize hp : leadingPower x.ratio.1 x.ratio.2 = p at hbelow habove
  have hfound : ((List.range 17).findSome? fun (n : ℕ) => onGrid? x (p - n)).isSome = true := by
    refine List.findSome?_isSome_iff.2 ⟨16, by decide, isSome_onGrid? hx ?_⟩
    rw [← ratio_eq]
    convert hbelow using 1
    rw [← zpow_natCast, ← zpow_add₀ (by norm_num)]
    congr 1
    push_cast
    ring
  obtain ⟨d, hd⟩ := Option.isSome_iff_exists.1 hfound
  obtain ⟨n, hn, hgrid⟩ := List.exists_of_findSome?_eq_some hd
  obtain ⟨hread, -, hdigits⟩ := onGrid?_spec hgrid
  refine ⟨d, ?_, hread, hdigits.trans ?_⟩
  · have hzero : x.isZero = false := by
      simp [isZero, hpos.ne']
    simp only [shortest, hzero, Bool.false_eq_true, if_false, hp, hd, Option.getD_some]
  · -- no grid is finer than the last one
    have hfinest : n + 1 ≤ 17 := List.mem_range.1 hn
    exact Nat.succ_le_of_lt ((gridBelow_lt x.ratio_pos habove n).trans_le
      (Nat.pow_le_pow_right (by decide) hfinest))

/-- Zero has one normal form. -/
theorem eq_zero_of_mantissa {x : Magnitude} (hx : x.Normal) (h : x.mantissa = 0) : x = zero := by
  obtain ⟨m, e⟩ := x
  obtain rfl : m = 0 := h
  obtain rfl : e = minExponent := hx.top.resolve_right (by simp only; decide)
  rfl

/-- **The shortest decimal of a magnitude is rounded to it**, and has no more than
seventeen digits. -/
theorem shortest_spec {x : Magnitude} (hx : x.Normal) :
    x.shortest.nearest? = some x ∧ x.shortest.digits ≤ 10 ^ 17 := by
  rcases Nat.eq_zero_or_pos x.mantissa with hzero | hpos
  · obtain rfl := eq_zero_of_mantissa hx hzero
    exact ⟨rfl, by decide +kernel⟩
  · obtain ⟨d, heq, hread, hdigits⟩ := shortest_eq hx hpos
    obtain ⟨hvalue, hless⟩ := Decimal.stripZeros_spec 17 d
    rw [heq, Decimal.nearest?_congr hvalue]
    exact ⟨hread, hless.trans hdigits⟩

end Magnitude

end EventFeed
