/-!
# EventFeed.Number.Binary64

Finite 64-bit floating-point numbers as exact values.  A magnitude is
`mantissa · 2 ^ exponent` with fifty-three bits of mantissa; a ratio of
natural numbers is rounded to the nearest magnitude, a tie going to the
even mantissa, and products and quotients round the exact result once.

Everything is arithmetic on natural numbers, so it computes inside the
logic as well as at run time.
-/

namespace EventFeed

/-- A non-negative finite number of 64-bit floating point, in normal
form: the mantissa has its top bit (bit 52), or the exponent is the
least one. -/
structure Magnitude where
  mantissa : Nat
  exponent : Int
deriving Repr, DecidableEq, Inhabited

namespace Magnitude

/-- The least exponent: that of the subnormal numbers. -/
def minExponent : Int := -1074

/-- The greatest exponent of a finite number. -/
def maxExponent : Int := 971

/-- Zero. -/
def zero : Magnitude := ⟨0, minExponent⟩

/-- Is the number zero? -/
def isZero (x : Magnitude) : Bool := x.mantissa == 0

/-- The value as a ratio: numerator and denominator. -/
def ratio (x : Magnitude) : Nat × Nat :=
  if 0 ≤ x.exponent then (x.mantissa <<< x.exponent.toNat, 1)
  else (x.mantissa, 1 <<< (-x.exponent).toNat)

/-- `num / den`, rounded to the nearest natural number, a tie going to
the even one. -/
def divideToEven (num den : Nat) : Nat :=
  let q := num / den
  let r := num % den
  if den < 2 * r || (2 * r == den && q % 2 == 1) then q + 1 else q

/-- The exponent at which `num / den` has fifty-three bits before the
point, or the least exponent if that is greater. -/
def exponentOf (num den : Nat) : Int :=
  let guess : Int := (num.log2 : Int) - den.log2 - 52
  let fits : Bool :=
    if 0 ≤ guess then den <<< (guess.toNat + 52) ≤ num
    else den <<< 52 ≤ num <<< (-guess).toNat
  max (if fits then guess else guess - 1) minExponent

/-- The magnitude nearest to `num / den`; `none` if that is too great to
be finite. -/
def ofRatio? (num den : Nat) : Option Magnitude :=
  if num = 0 then some zero
  else
    let e := exponentOf num den
    let m :=
      if 0 ≤ e then divideToEven num (den <<< e.toNat)
      else divideToEven (num <<< (-e).toNat) den
    let x : Magnitude := if m = 1 <<< 53 then ⟨1 <<< 52, e + 1⟩ else ⟨m, e⟩
    if x.exponent ≤ maxExponent then some x else none

/-- The exact product, rounded once. -/
def mul? (x y : Magnitude) : Option Magnitude :=
  ofRatio? (x.ratio.1 * y.ratio.1) (x.ratio.2 * y.ratio.2)

/-- The exact quotient, rounded once. -/
def div? (x y : Magnitude) : Option Magnitude :=
  ofRatio? (x.ratio.1 * y.ratio.2) (x.ratio.2 * y.ratio.1)

/-- The magnitude nearest to a power of ten, for exponents up to 308. -/
def powerOfTen? (k : Nat) : Option Magnitude := ofRatio? (Nat.pow 10 k) 1

end Magnitude

/-- A finite 64-bit floating-point number; zero has both signs. -/
structure Binary64 where
  negative : Bool
  magnitude : Magnitude
deriving Repr, DecidableEq, Inhabited

/-! ## Rounding -/

/-- A tie goes to the even neighbour, below or above. -/
example : Magnitude.divideToEven 5 2 = 2 ∧ Magnitude.divideToEven 7 2 = 4 := by decide

/-- One is `2 ^ 52 · 2 ^ -52`. -/
example : Magnitude.ofRatio? 1 1 = some ⟨1 <<< 52, -52⟩ := by decide +kernel

/-- Half of the least number rounds to zero, and three quarters do not. -/
example : Magnitude.ofRatio? 1 (1 <<< 1075) = some Magnitude.zero ∧
    Magnitude.ofRatio? 3 (1 <<< 1076) = some ⟨1, -1074⟩ := by decide +kernel

end EventFeed
