import EventFeed.Number.Binary64

/-!
# EventFeed.Number.Shortest

The fewest decimal digits that read back.  For one digit, two digits, and
so on up to seventeen, the two neighbours of the value on that decimal
grid are rounded to floating point; the first grid on which a neighbour
gives the value back wins, and of two such neighbours the nearer one, or the
even one if the value lies in the middle.
-/

namespace EventFeed

/-- A decimal number `digits · 10 ^ exponent`. -/
structure Decimal where
  digits : Nat
  exponent : Int
deriving Repr, DecidableEq, Inhabited

namespace Decimal

/-- The value as a ratio: numerator and denominator. -/
def ratio (d : Decimal) : Nat × Nat :=
  if 0 ≤ d.exponent then (d.digits * Nat.pow 10 d.exponent.toNat, 1)
  else (d.digits, Nat.pow 10 (-d.exponent).toNat)

/-- The magnitude nearest to the decimal. -/
def nearest? (d : Decimal) : Option Magnitude := Magnitude.ofRatio? d.ratio.1 d.ratio.2

/-- The same number without zeros at the end of its digits; `fuel` bounds
how many are removed. -/
def stripZeros : Nat → Decimal → Decimal
  | 0, d => d
  | fuel + 1, d =>
    if d.digits ≠ 0 ∧ d.digits % 10 = 0 then stripZeros fuel ⟨d.digits / 10, d.exponent + 1⟩
    else d

end Decimal

namespace Magnitude

/-- Is `10 ^ p` at most `num / den`? -/
def tenPowerLe (p : Int) (num den : Nat) : Bool :=
  if 0 ≤ p then den * Nat.pow 10 p.toNat ≤ num else den ≤ num * Nat.pow 10 (-p).toNat

/-- The power of ten of the leading digit of `num / den`, which is not
zero.  The estimate by binary logarithms is at most one off either way. -/
def leadingPower (num den : Nat) : Int :=
  let guess : Int := ((num.log2 : Int) - den.log2) * 30103 / 100000
  if tenPowerLe (guess + 1) num den then guess + 1
  else if tenPowerLe guess num den then guess
  else guess - 1

/-- `num / den` in units of `10 ^ k`, rounded down, and whether to round it
up instead: the upper neighbour is nearer, or as near and even. -/
def gridBelow (k : Int) (num den : Nat) : Nat × Bool :=
  let n := if 0 ≤ k then num else num * Nat.pow 10 (-k).toNat
  let d := if 0 ≤ k then den * Nat.pow 10 k.toNat else den
  (n / d, d < 2 * (n % d) || (d == 2 * (n % d) && n / d % 2 == 1))

/-- The neighbour of `x` on the grid of `10 ^ k` that reads back as `x`,
the nearer or even one if both do. -/
def onGrid? (x : Magnitude) (k : Int) : Option Decimal :=
  let (below, up) := gridBelow k x.ratio.1 x.ratio.2
  let lower : Decimal := ⟨below, k⟩
  let upper : Decimal := ⟨below + 1, k⟩
  let hit (d : Decimal) : Option Decimal := if d.nearest? = some x then some d else none
  if up then hit upper <|> hit lower else hit lower <|> hit upper

/-- The whole decimal expansion of `x`. -/
def expansion (x : Magnitude) : Decimal :=
  if 0 ≤ x.exponent then ⟨x.mantissa <<< x.exponent.toNat, 0⟩
  else ⟨x.mantissa * Nat.pow 5 (-x.exponent).toNat, x.exponent⟩

/-- The shortest decimal that reads back as `x`.  Seventeen digits always
do, so the expansion in the last line is for the reader's comfort only. -/
def shortest (x : Magnitude) : Decimal :=
  if x.isZero then ⟨0, 0⟩
  else
    let p := leadingPower x.ratio.1 x.ratio.2
    let found := (List.range 17).findSome? fun (n : Nat) => onGrid? x (p - n)
    Decimal.stripZeros 17 (found.getD x.expansion)

end Magnitude

/-! ## Samples -/

/-- One tenth has one digit. -/
example : (Magnitude.ofRatio? 1 10).map Magnitude.shortest = some ⟨1, -1⟩ := by decide +kernel

/-- The least number has one digit, the one nearest to it. -/
example : Magnitude.shortest ⟨1, -1074⟩ = ⟨5, -324⟩ := by decide +kernel

/-- A value in the middle goes to the even neighbour. -/
example : (Magnitude.ofRatio? 4503599627370499 4).map Magnitude.shortest =
    some ⟨11258999068426248, -1⟩ := by decide +kernel

/-- A third has sixteen digits. -/
example : (Magnitude.ofRatio? 1 3).map Magnitude.shortest = some ⟨3333333333333333, -16⟩ := by
  decide +kernel

end EventFeed
