import EventFeed.Number.Binary64
import Mathlib.Algebra.Order.Field.Power
import Mathlib.Data.Rat.Cast.Order
import Mathlib.Tactic.FieldSimp
import Mathlib.Tactic.Linarith
import Mathlib.Tactic.NormNum
import Mathlib.Tactic.Positivity
import Mathlib.Tactic.Ring

/-!
# EventFeed.Proofs.Number.Rounding

What a ratio is rounded to.  `Rounds r m e` says that `m · 2 ^ e` is the multiple of
`2 ^ e` nearest to `r`, an even multiple if two are as near, and that `e` is the
exponent at which `r` has fifty-three bits before the point.  There is one such number
for each `r`, and it grows with `r` (`Rounds.value_le`).  Every ratio is rounded to it
(`ofRatio?_eq`), so rounding is monotone (`ofRatio?_mono`), and whatever is close enough
to a magnitude is rounded to that magnitude (`ofRatio?_of_near`).
-/

namespace EventFeed

/-! ## Powers -/

section

variable {b : ℚ} {e : ℤ}

/-- A power multiplies or divides by one with a natural exponent. -/
theorem zpow_toNat (h : 0 ≤ e) : b ^ e = b ^ e.toNat := by
  rw [← zpow_natCast, Int.toNat_of_nonneg h]

theorem zpow_neg_toNat (h : ¬ 0 ≤ e) : b ^ e = (b ^ (-e).toNat)⁻¹ := by
  rw [← zpow_natCast, Int.toNat_of_nonneg (by omega), zpow_neg, inv_inv]

end

namespace Magnitude

/-! ## Values -/

/-- The number that a magnitude stands for. -/
def value (x : Magnitude) : ℚ := x.mantissa * 2 ^ x.exponent

/-- The normal form of a finite magnitude. -/
structure Normal (x : Magnitude) : Prop where
  mantissa_lt : x.mantissa < 2 ^ 53
  least : minExponent ≤ x.exponent
  greatest : x.exponent ≤ maxExponent
  top : x.exponent = minExponent ∨ 2 ^ 52 ≤ x.mantissa

theorem two_zpow_pos (e : ℤ) : (0 : ℚ) < 2 ^ e := by positivity

theorem ratio_pos (x : Magnitude) : 0 < x.ratio.2 := by
  rw [ratio]
  split
  · exact Nat.one_pos
  · rw [Nat.one_shiftLeft]
    exact Nat.two_pow_pos _

/-- The ratio of a magnitude is its value. -/
theorem ratio_eq (x : Magnitude) : (x.ratio.1 : ℚ) / x.ratio.2 = x.value := by
  rw [ratio, value]
  by_cases h : 0 ≤ x.exponent
  · rw [if_pos h, zpow_toNat h, Nat.shiftLeft_eq]
    push_cast
    exact div_one _
  · rw [if_neg h, zpow_neg_toNat h, Nat.one_shiftLeft]
    push_cast
    exact div_eq_mul_inv _ _

/-! ## Division to the nearest -/

/-- **Division is to the nearest**, and to the even one of two that are as near. -/
theorem divideToEven_near (num : ℕ) {den : ℕ} (h : 0 < den) :
    |(num : ℚ) / den - divideToEven num den| ≤ 1 / 2 ∧
      (|(num : ℚ) / den - divideToEven num den| = 1 / 2 → divideToEven num den % 2 = 0) := by
  have hden : (0 : ℚ) < den := by exact_mod_cast h
  have hsplit : (num : ℚ) = den * (num / den : ℕ) + (num % den : ℕ) := by
    exact_mod_cast (Nat.div_add_mod num den).symm
  have hratio : (num : ℚ) / den = (num / den : ℕ) + ((num % den : ℕ) : ℚ) / den := by
    conv_lhs => rw [hsplit, add_div, mul_div_cancel_left₀ _ hden.ne']
  have hhalf : ((num % den : ℕ) : ℚ) / den = 1 / 2 → 2 * (num % den) = den := fun heq => by
    have hcross : 2 * ((num % den : ℕ) : ℚ) = den := by
      rw [div_eq_iff hden.ne'] at heq
      linarith
    exact_mod_cast hcross
  rw [hratio, divideToEven]
  simp only [Bool.or_eq_true, decide_eq_true_eq, Bool.and_eq_true, beq_iff_eq]
  split
  · next hup =>
    -- the upper neighbour: what is left over is a half at least
    have hle : (1 : ℚ) / 2 ≤ ((num % den : ℕ) : ℚ) / den := by
      have hcross : (den : ℚ) ≤ 2 * (num % den : ℕ) := by
        exact_mod_cast (by omega : den ≤ 2 * (num % den))
      rw [le_div_iff₀ hden]
      linarith
    have hlt : ((num % den : ℕ) : ℚ) / den < 1 :=
      (div_lt_one hden).2 (by exact_mod_cast Nat.mod_lt num h)
    have hdistance : ((num / den : ℕ) : ℚ) + ((num % den : ℕ) : ℚ) / den - (num / den + 1 : ℕ) =
        ((num % den : ℕ) : ℚ) / den - 1 := by
      push_cast
      ring
    rw [hdistance, abs_of_neg (by linarith)]
    refine ⟨by linarith, fun heq => ?_⟩
    have := hhalf (by linarith)
    omega
  · next hdown =>
    have hle : ((num % den : ℕ) : ℚ) / den ≤ 1 / 2 := by
      have hcross : 2 * ((num % den : ℕ) : ℚ) ≤ den := by
        exact_mod_cast (by omega : 2 * (num % den) ≤ den)
      rw [div_le_iff₀ hden]
      linarith
    rw [add_sub_cancel_left, abs_of_nonneg (by positivity)]
    refine ⟨hle, fun heq => ?_⟩
    have := hhalf heq
    omega

/-! ## Exponents -/

/-- The logarithms of numerator and denominator tell the size of a ratio. -/
theorem ratio_lt_zpow {num den : ℕ} (hnum : 0 < num) (hden : 0 < den) :
    (2 : ℚ) ^ ((num.log2 : ℤ) - den.log2 - 1) < num / den ∧
      (num : ℚ) / den < 2 ^ ((num.log2 : ℤ) - den.log2 + 1) := by
  have hpos : (0 : ℚ) < den := by exact_mod_cast hden
  have hn : (2 : ℚ) ^ (num.log2 : ℤ) ≤ num ∧ (num : ℚ) < 2 ^ ((num.log2 : ℤ) + 1) := by
    constructor
    · exact_mod_cast Nat.log2_self_le hnum.ne'
    · exact_mod_cast Nat.lt_log2_self
  have hd : (2 : ℚ) ^ (den.log2 : ℤ) ≤ den ∧ (den : ℚ) < 2 ^ ((den.log2 : ℤ) + 1) := by
    constructor
    · exact_mod_cast Nat.log2_self_le hden.ne'
    · exact_mod_cast Nat.lt_log2_self
  constructor
  · rw [lt_div_iff₀ hpos]
    calc (2 : ℚ) ^ ((num.log2 : ℤ) - den.log2 - 1) * den
        < 2 ^ ((num.log2 : ℤ) - den.log2 - 1) * 2 ^ ((den.log2 : ℤ) + 1) :=
          mul_lt_mul_of_pos_left hd.2 (two_zpow_pos _)
      _ = 2 ^ (num.log2 : ℤ) := by
          rw [← zpow_add₀ two_ne_zero]
          congr 1
          ring
      _ ≤ num := hn.1
  · rw [div_lt_iff₀ hpos]
    calc (num : ℚ) < 2 ^ ((num.log2 : ℤ) + 1) := hn.2
      _ = 2 ^ ((num.log2 : ℤ) - den.log2 + 1) * 2 ^ (den.log2 : ℤ) := by
          rw [← zpow_add₀ two_ne_zero]
          congr 1
          ring
      _ ≤ 2 ^ ((num.log2 : ℤ) - den.log2 + 1) * den :=
          mul_le_mul_of_nonneg_left hd.1 (two_zpow_pos _).le

/-- The test for fifty-three bits before the point. -/
theorem fits_iff (num : ℕ) {den : ℕ} (hden : 0 < den) (e : ℤ) :
    (if 0 ≤ e then den <<< (e.toNat + 52) ≤ num else den <<< 52 ≤ num <<< (-e).toNat) ↔
      (2 : ℚ) ^ 52 * 2 ^ e ≤ num / den := by
  have hpos : (0 : ℚ) < den := by exact_mod_cast hden
  rw [le_div_iff₀ hpos]
  split
  · next h =>
    rw [zpow_toNat h, Nat.shiftLeft_eq, ← Nat.cast_le (α := ℚ)]
    push_cast
    rw [pow_add]
    constructor <;> intro <;> linarith
  · next h =>
    rw [zpow_neg_toNat h, Nat.shiftLeft_eq, Nat.shiftLeft_eq, ← Nat.cast_le (α := ℚ)]
    push_cast
    have hp : (0 : ℚ) < 2 ^ (-e).toNat := by positivity
    rw [mul_right_comm, ← div_eq_mul_inv, div_le_iff₀ hp, mul_comm (2 ^ 52 : ℚ)]
    norm_num

/-- **At its exponent a ratio has fifty-three bits** before the point, or fewer at the
least exponent. -/
theorem exponentOf_spec {num den : ℕ} (hnum : 0 < num) (hden : 0 < den) :
    minExponent ≤ exponentOf num den ∧ (num : ℚ) / den < 2 ^ 53 * 2 ^ exponentOf num den ∧
      (exponentOf num den = minExponent ∨ (2 : ℚ) ^ 52 * 2 ^ exponentOf num den ≤ num / den) := by
  obtain ⟨hlow, hhigh⟩ := ratio_lt_zpow hnum hden
  have hshift (n : ℕ) (e : ℤ) : (2 : ℚ) ^ n * 2 ^ e = 2 ^ ((n : ℤ) + e) := by
    rw [zpow_add₀ two_ne_zero, zpow_natCast]
  have hguess (e : ℤ) (he : e = (num.log2 : ℤ) - den.log2 - 52) :
      (num : ℚ) / den < 2 ^ (53 + e) ∧ (2 : ℚ) ^ (52 + (e - 1)) < num / den := by
    subst he
    exact ⟨by convert hhigh using 2; ring, by convert hlow using 2; ring⟩
  have hexact : ∃ e, exponentOf num den = max e minExponent ∧
      (num : ℚ) / den < 2 ^ (53 + e) ∧ (2 : ℚ) ^ (52 + e) ≤ num / den := by
    rw [exponentOf]
    simp only [apply_ite (· = true), decide_eq_true_eq, fits_iff num hden]
    obtain ⟨hbelow, habove⟩ := hguess _ rfl
    rw [hshift]
    split
    · next hfits => exact ⟨_, rfl, hbelow, hfits⟩
    · next hless =>
      have hsame (e : ℤ) : (53 : ℤ) + (e - 1) = (52 : ℕ) + e := by
        push_cast
        ring
      refine ⟨_, rfl, ?_, habove.le⟩
      rw [hsame]
      exact not_le.1 hless
  obtain ⟨e, hmax, hbelow, habove⟩ := hexact
  rw [hmax, hshift, hshift]
  refine ⟨le_max_right _ _, hbelow.trans_le (zpow_le_zpow_right₀ one_le_two ?_), ?_⟩
  · have := le_max_left e minExponent
    push_cast
    omega
  · rcases max_choice e minExponent with h | h
    · rw [h]
      exact .inr habove
    · exact .inl h

/-! ## Rounding -/

/-- `m · 2 ^ e` is what `r` is rounded to, before the carry of a mantissa with
fifty-four bits. -/
structure Rounds (r : ℚ) (m : ℕ) (e : ℤ) : Prop where
  least : minExponent ≤ e
  below : r < 2 ^ 53 * 2 ^ e
  top : e = minExponent ∨ 2 ^ 52 * 2 ^ e ≤ r
  near : |r / 2 ^ e - m| ≤ 1 / 2
  even : |r / 2 ^ e - m| = 1 / 2 → m % 2 = 0

/-- The magnitude of a mantissa and an exponent. -/
def carry (m : ℕ) (e : ℤ) : Magnitude := if m = 1 <<< 53 then ⟨1 <<< 52, e + 1⟩ else ⟨m, e⟩

/-- A carry does not change the value. -/
theorem value_carry (m : ℕ) (e : ℤ) : (carry m e).value = m * 2 ^ e := by
  rw [carry]
  split
  · next h =>
    rw [h, value, zpow_add_one₀ two_ne_zero, Nat.shiftLeft_eq, Nat.shiftLeft_eq]
    push_cast
    ring
  · rfl

/-- The mantissa of a ratio at an exponent is the nearest there, and even if two are as
near. -/
theorem mantissa_near (num : ℕ) {den : ℕ} (hden : 0 < den) {e : ℤ} {m : ℕ}
    (hm : (if 0 ≤ e then divideToEven num (den <<< e.toNat)
      else divideToEven (num <<< (-e).toNat) den) = m) :
    |(num : ℚ) / den / 2 ^ e - m| ≤ 1 / 2 ∧
      (|(num : ℚ) / den / 2 ^ e - m| = 1 / 2 → m % 2 = 0) := by
  split at hm
  · next h =>
    have hpos : 0 < den <<< e.toNat := by
      rw [Nat.shiftLeft_eq]
      positivity
    have heq : (num : ℚ) / den / 2 ^ e = num / (den <<< e.toNat : ℕ) := by
      rw [zpow_toNat h, Nat.shiftLeft_eq, div_div]
      push_cast
      rfl
    rw [heq, ← hm]
    exact divideToEven_near num hpos
  · next h =>
    have heq : (num : ℚ) / den / 2 ^ e = (num <<< (-e).toNat : ℕ) / den := by
      rw [zpow_neg_toNat h, Nat.shiftLeft_eq, div_inv_eq_mul, div_mul_eq_mul_div]
      push_cast
      rfl
    rw [heq, ← hm]
    exact divideToEven_near _ hden

/-- **Every ratio is rounded**, unless it is too great. -/
theorem ofRatio?_eq (num : ℕ) {den : ℕ} (hden : 0 < den) :
    ∃ m e, Rounds ((num : ℚ) / den) m e ∧ ofRatio? num den =
      if (carry m e).exponent ≤ maxExponent then some (carry m e) else none := by
  rw [ofRatio?]
  split
  · next hzero =>
    subst hzero
    refine ⟨0, minExponent, ⟨le_refl _, ?_, .inl rfl, ?_, fun _ => rfl⟩, rfl⟩
    · rw [Nat.cast_zero, zero_div]
      positivity
    · norm_num
  · next hne =>
    obtain ⟨hleast, hbelow, htop⟩ := exponentOf_spec (Nat.pos_of_ne_zero hne) hden
    obtain ⟨hnear, heven⟩ := mantissa_near num hden (e := exponentOf num den) rfl
    exact ⟨_, _, ⟨hleast, hbelow, htop, hnear, heven⟩, rfl⟩

namespace Rounds

variable {r r' : ℚ} {m m' : ℕ} {e e' : ℤ}

theorem mantissa_le (h : Rounds r m e) : m ≤ 2 ^ 53 := by
  have hr : r / 2 ^ e < 2 ^ 53 := (div_lt_iff₀ (two_zpow_pos e)).2 h.below
  have hnear := (abs_le.1 h.near).1
  have hlt : (m : ℚ) < (2 ^ 53 + 1 : ℕ) := by
    push_cast
    linarith
  exact Nat.lt_succ_iff.1 (by exact_mod_cast hlt)

theorem le_mantissa (h : Rounds r m e) : e = minExponent ∨ 2 ^ 52 ≤ m := by
  refine h.top.imp_right fun htop => ?_
  have hr : (2 : ℚ) ^ 52 ≤ r / 2 ^ e := (le_div_iff₀ (two_zpow_pos e)).2 htop
  have hnear := (abs_le.1 h.near).2
  have hlt : ((2 ^ 52 : ℕ) : ℚ) < (m + 1 : ℕ) := by
    push_cast
    linarith
  exact Nat.lt_succ_iff.1 (by exact_mod_cast hlt)

/-- A greater ratio has no lesser exponent. -/
theorem exponent_le (hle : r ≤ r') (h : Rounds r m e) (h' : Rounds r' m' e') : e ≤ e' := by
  by_contra hlt
  rcases h.top with hmin | htop
  · have := h'.least
    omega
  · have hstep : (2 : ℚ) ^ (e' + 1) ≤ 2 ^ e := zpow_le_zpow_right₀ one_le_two (by omega)
    rw [zpow_add_one₀ two_ne_zero] at hstep
    have := h'.below
    linarith

/-- At one exponent, a greater ratio has no lesser mantissa. -/
theorem mantissa_mono (hle : r ≤ r') (h : Rounds r m e) (h' : Rounds r' m' e) : m ≤ m' := by
  by_contra hgt
  have hscaled : r / 2 ^ e ≤ r' / 2 ^ e := div_le_div_of_nonneg_right hle (two_zpow_pos e).le
  have hlow := (abs_le.1 h.near).1
  have hhigh := (abs_le.1 h'.near).2
  have hstep : (m' : ℚ) + 1 ≤ m := by exact_mod_cast Nat.not_le.1 hgt
  -- then both lie in the middle between two neighbours, and both of these are even
  have heven : m % 2 = 0 := h.even (by rw [abs_of_neg] <;> linarith)
  have heven' : m' % 2 = 0 := h'.even (by rw [abs_of_pos] <;> linarith)
  have hnext : (m : ℚ) < (m' + 2 : ℕ) := by
    push_cast
    linarith
  have := Nat.cast_lt.1 hnext
  omega

/-- **Rounding is monotone.** -/
theorem value_le (hle : r ≤ r') (h : Rounds r m e) (h' : Rounds r' m' e') :
    (m : ℚ) * 2 ^ e ≤ m' * 2 ^ e' := by
  rcases (exponent_le hle h h').lt_or_eq with hlt | rfl
  · have hstep : (2 : ℚ) ^ (e + 1) ≤ 2 ^ e' := zpow_le_zpow_right₀ one_le_two hlt
    rw [zpow_add_one₀ two_ne_zero] at hstep
    have htop : 2 ^ 52 ≤ m' := h'.le_mantissa.resolve_left (by have := h.least; omega)
    have hm : (m : ℚ) ≤ 2 ^ 53 := by exact_mod_cast h.mantissa_le
    have hm' : (2 : ℚ) ^ 52 ≤ m' := by exact_mod_cast htop
    calc (m : ℚ) * 2 ^ e ≤ 2 ^ 53 * 2 ^ e := mul_le_mul_of_nonneg_right hm (two_zpow_pos e).le
      _ = 2 ^ 52 * (2 ^ e * 2) := by ring
      _ ≤ 2 ^ 52 * 2 ^ e' := mul_le_mul_of_nonneg_left hstep (by norm_num)
      _ ≤ m' * 2 ^ e' := mul_le_mul_of_nonneg_right hm' (two_zpow_pos e').le
  · exact mul_le_mul_of_nonneg_right (by exact_mod_cast mantissa_mono hle h h')
      (two_zpow_pos e).le

/-- There is one way to round. -/
theorem unique (h : Rounds r m e) (h' : Rounds r m' e') : m = m' ∧ e = e' := by
  obtain rfl := (exponent_le le_rfl h h').antisymm (exponent_le le_rfl h' h)
  exact ⟨(mantissa_mono le_rfl h h').antisymm (mantissa_mono le_rfl h' h), rfl⟩

/-- What is in range stays in range for lesser ratios. -/
theorem exponent_carry_le (hle : r ≤ r') (h : Rounds r m e) (h' : Rounds r' m' e') :
    (carry m e).exponent ≤ (carry m' e').exponent := by
  have hexp := exponent_le hle h h'
  rw [carry, carry]
  split
  · next hm =>
    split
    · exact Int.add_le_add_right hexp 1
    · next hm' =>
      -- with no carry above, the exponent below is less
      rcases hexp.lt_or_eq with hlt | rfl
      · exact hlt
      · have := mantissa_mono hle h h'
        have := h'.mantissa_le
        omega
  · split
    · exact hexp.trans (Int.le_add_one le_rfl)
    · exact hexp

end Rounds

/-- **What a ratio is rounded to is in normal form.** -/
theorem normal_of_ofRatio? {num den : ℕ} (hden : 0 < den) {x : Magnitude}
    (h : ofRatio? num den = some x) : x.Normal := by
  obtain ⟨m, e, hrounds, hround⟩ := ofRatio?_eq num hden
  rw [hround] at h
  split at h
  · next hgreatest =>
    obtain rfl := Option.some.inj h
    have hleast := hrounds.least
    have hm := hrounds.mantissa_le
    have htop := hrounds.le_mantissa
    rw [carry] at hgreatest ⊢
    split at hgreatest
    · next hcarry =>
      rw [if_pos hcarry]
      exact ⟨by simp only; decide, by dsimp only; omega, hgreatest, .inr (by simp only; decide)⟩
    · next hcarry =>
      rw [if_neg hcarry]
      exact ⟨by dsimp only; omega, hleast, hgreatest, htop⟩
  · cases h

/-- **Rounding is monotone**: a lesser ratio is rounded to a magnitude, too, which is
not greater. -/
theorem ofRatio?_mono {num den num' den' : ℕ} (hden : 0 < den) (hden' : 0 < den')
    (hle : (num : ℚ) / den ≤ num' / den') {y : Magnitude} (h : ofRatio? num' den' = some y) :
    ∃ x, ofRatio? num den = some x ∧ x.value ≤ y.value := by
  obtain ⟨m, e, hrounds, hround⟩ := ofRatio?_eq num hden
  obtain ⟨m', e', hrounds', hround'⟩ := ofRatio?_eq num' hden'
  rw [hround'] at h
  split at h
  · next hgreatest =>
    obtain rfl := Option.some.inj h
    refine ⟨carry m e, ?_, ?_⟩
    · rw [hround, if_pos ((hrounds.exponent_carry_le hle hrounds').trans hgreatest)]
    · rw [value_carry, value_carry]
      exact hrounds.value_le hle hrounds'
  · cases h

/-- What a ratio is rounded to depends on its value only. -/
theorem ofRatio?_congr {num den num' den' : ℕ} (hden : 0 < den) (hden' : 0 < den')
    (heq : (num : ℚ) / den = num' / den') : ofRatio? num den = ofRatio? num' den' := by
  obtain ⟨m, e, hrounds, hround⟩ := ofRatio?_eq num hden
  obtain ⟨m', e', hrounds', hround'⟩ := ofRatio?_eq num' hden'
  obtain ⟨rfl, rfl⟩ := (heq ▸ hrounds).unique hrounds'
  rw [hround, hround']

/-! ## Close to a magnitude -/

/-- The number is closer to the magnitude than half of the distance of its neighbours;
the one below a power of two is half as far away. -/
structure Near (r : ℚ) (x : Magnitude) : Prop where
  half : |r - x.value| < 2 ^ x.exponent / 2
  quarter : x.mantissa = 2 ^ 52 → x.value - 2 ^ x.exponent / 4 < r

/-- Such a number is rounded to the magnitude's mantissa and exponent, or to those of
the last carry. -/
theorem Near.rounds {r : ℚ} {x : Magnitude} (hx : x.Normal) (h : Near r x) :
    ∃ m e, Rounds r m e ∧ carry m e = x := by
  obtain ⟨m, e⟩ := x
  obtain ⟨hlt, hleast, -, htop⟩ := hx
  obtain ⟨hhalf, hquarter⟩ := h
  rw [value] at hhalf hquarter
  dsimp only at *
  have hp := two_zpow_pos e
  obtain ⟨hlow, hhigh⟩ := abs_lt.1 hhalf
  have hm : (m : ℚ) + 1 ≤ 2 ^ 53 := by exact_mod_cast hlt
  by_cases hfull : e = minExponent ∨ 2 ^ 52 * 2 ^ e ≤ r
  · have hnear : |r / 2 ^ e - m| < 1 / 2 := by
      rw [abs_lt, lt_sub_iff_add_lt, sub_lt_iff_lt_add, lt_div_iff₀ hp, div_lt_iff₀ hp]
      constructor <;> linarith
    refine ⟨m, e, ⟨hleast, by nlinarith, hfull, hnear.le, fun heq => absurd heq hnear.ne⟩, ?_⟩
    rw [carry, if_neg (by omega)]
  · -- just below a power of two, so the mantissa is rounded up and carried
    obtain ⟨hmin, hbelow⟩ := not_or.1 hfull
    have hpow : m = 2 ^ 52 := by
      refine le_antisymm (Nat.lt_succ_iff.1 ?_) (htop.resolve_left hmin)
      have hless : (m : ℚ) < (2 ^ 52 + 1 : ℕ) := by
        push_cast
        nlinarith
      exact_mod_cast hless
    subst hpow
    have hclose := hquarter rfl
    have hhalved : (2 : ℚ) ^ (e - 1) = 2 ^ e / 2 := by
      rw [zpow_sub_one₀ two_ne_zero, div_eq_mul_inv]
    have hnear : |r / 2 ^ (e - 1) - (2 ^ 53 : ℕ)| < 1 / 2 := by
      rw [hhalved, abs_lt, lt_sub_iff_add_lt, sub_lt_iff_lt_add, lt_div_iff₀ (by positivity),
        div_lt_iff₀ (by positivity)]
      push_cast at *
      constructor <;> linarith
    refine ⟨2 ^ 53, e - 1, ⟨by omega, ?_, .inr ?_, hnear.le, fun heq => absurd heq hnear.ne⟩, ?_⟩
    · rw [hhalved]
      linarith
    · rw [hhalved]
      push_cast at *
      linarith
    · rw [carry, if_pos (by decide), sub_add_cancel]
      rfl

/-- **What is close to a magnitude is rounded to it.** -/
theorem ofRatio?_of_near {num den : ℕ} (hden : 0 < den) {x : Magnitude} (hx : x.Normal)
    (h : Near ((num : ℚ) / den) x) : ofRatio? num den = some x := by
  obtain ⟨m, e, hrounds, hround⟩ := ofRatio?_eq num hden
  obtain ⟨m', e', hrounds', hcarry⟩ := h.rounds hx
  obtain ⟨rfl, rfl⟩ := hrounds.unique hrounds'
  rw [hround, hcarry, if_pos hx.greatest]

/-- A magnitude is rounded to itself. -/
theorem ofRatio?_ratio {x : Magnitude} (hx : x.Normal) : ofRatio? x.ratio.1 x.ratio.2 = some x := by
  refine ofRatio?_of_near x.ratio_pos hx ⟨?_, fun _ => ?_⟩
  · rw [ratio_eq, sub_self, abs_zero]
    positivity
  · rw [ratio_eq]
    have := two_zpow_pos x.exponent
    linarith

end Magnitude

end EventFeed
