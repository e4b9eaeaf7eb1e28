import EventFeed.Json.Reader.Basic

/-!
# EventFeed.Json.Reader.Number

Number literals, and the value they stand for.

A literal without fraction and exponent is an integer if it fits 64 bits.
Every other one is a floating-point number, found in two roundings rather
than one: the digits that fit 64 bits form a significand, which is rounded
and then multiplied or divided by a power of ten.  The result may lie one
step beside the nearest number, and `-0` is a floating-point zero.
-/

namespace EventFeed

namespace Json

open Utf8 (width)

/-- A number as it is spelled: decimal digits before the point, digits
after it (none if there is no point), and the exponent with its sign. -/
structure Literal where
  negative : Bool
  whole : List Nat
  fraction : List Nat
  exponent : Option (Bool × List Nat)
deriving Repr, DecidableEq

/-! ## Spelling -/

/-- The value of a decimal digit. -/
def digit? : Symbol → Option Nat
  | .char c => if c.isDigit then some (c.toNat - '0'.toNat) else none
  | .stray _ => none

/-- The digits that the text starts with, and the rest behind them;
`done` holds the digits before them, the last one first. -/
def readDigitsFrom (done : List Nat) : Input → List Nat × Input
  | [] => (done.reverse, [])
  | s :: rest =>
    match digit? s with
    | some d => readDigitsFrom (d :: done) rest
    | none => (done.reverse, s :: rest)

/-- The digits that the text starts with, and the rest behind them. -/
def readDigits (input : Input) : List Nat × Input := readDigitsFrom [] input

/-- The digits of the whole part: one zero, or no zero in front. -/
def readWhole (input : Input) : Read (List Nat) :=
  match input with
  | [] => fault (.ended .value) 0
  | s :: rest =>
    match digit? s with
    | none => fault .invalidNumber (behindNext input)
    | some 0 =>
      match readDigits rest with
      | ([], _) => .ok ([0], rest)
      | (_ :: _, _) => fault .invalidNumber (behindNext rest)
    | some _ => .ok (readDigits input)

/-- The digits behind a point; no digits if there is no point. -/
def readFraction (input : Input) : Read (List Nat) :=
  match input with
  | .char '.' :: rest =>
    match readDigits rest with
    | ([], []) => fault (.ended .value) 0
    | ([], rest) => fault .invalidNumber (behindNext rest)
    | (ds, rest) => .ok (ds, rest)
  | rest => .ok ([], rest)

/-- The sign of an exponent: is it negative? -/
def readSign : Input → Bool × Input
  | .char '+' :: rest => (false, rest)
  | .char '-' :: rest => (true, rest)
  | rest => (false, rest)

/-- The digits of an exponent. -/
def readPower (rest : Input) : Read (Option (Bool × List Nat)) :=
  let (negative, rest) := readSign rest
  match readDigits rest with
  | ([], []) => fault (.ended .value) 0
  | ([], rest) => fault .invalidNumber (behindNext rest)
  | (ds, rest) => .ok (some (negative, ds), rest)

/-- The exponent, if there is one. -/
def readExponent (input : Input) : Read (Option (Bool × List Nat)) :=
  match input with
  | .char 'e' :: rest => readPower rest
  | .char 'E' :: rest => readPower rest
  | rest => .ok (none, rest)

/-- A number literal; its minus sign, if it has one, is already read. -/
def readLiteral (negative : Bool) (input : Input) : Except Fault (Literal × Input) := do
  let (whole, rest) ← readWhole input
  let (fraction, rest) ← readFraction rest
  let (exponent, rest) ← readExponent rest
  return (⟨negative, whole, fraction, exponent⟩, rest)

/-! ## Value -/

/-- Append digits to a number as long as it stays within the limit; the
digits from the first one that would not fit are left over. -/
def absorb (limit n : Nat) : List Nat → Nat × List Nat
  | [] => (n, [])
  | d :: ds => if n * 10 + d ≤ limit then absorb limit (n * 10 + d) ds else (n, d :: ds)

/-- The greatest significand: 64 bits. -/
def significandLimit : Nat := 0xffffffffffffffff

/-- The greatest exponent that is told apart from all greater ones: 31 bits. -/
def exponentLimit : Nat := 0x7fffffff

/-- `x · 10 ^ e`.  A power of ten beyond `308` is applied in several
divisions, or overflows; `fuel` counts the divisions, of which the second
leaves nothing of a significand of 64 bits. -/
def scaled? : Nat → Magnitude → Int → Option Magnitude
  | fuel, x, e =>
    if e.natAbs ≤ 308 then
      (Magnitude.powerOfTen? e.natAbs).bind fun p => if 0 ≤ e then x.mul? p else x.div? p
    else if x.isZero then some x
    else if 0 ≤ e then none
    else
      match fuel with
      | 0 => some Magnitude.zero
      | fuel + 1 =>
        (Magnitude.powerOfTen? 308).bind fun p =>
          (x.div? p).bind fun y => scaled? fuel y (e + 308)

/-- `significand · 10 ^ e`, rounded at each step. -/
def float? (negative : Bool) (significand : Nat) (e : Int) : Option Binary64 := do
  let x ← Magnitude.ofRatio? significand 1
  let y ← scaled? 2 x e
  return ⟨negative, y⟩

/-- The value of an integer literal that fits 64 bits.  Minus zero is a
floating-point number, and so is a negative number below `-2 ^ 63`. -/
def integer? (negative : Bool) (n : Nat) : Option Number :=
  if negative then
    if 0 < n ∧ n ≤ 0x8000000000000000 then some (.integer (-n))
    else (float? true n 0).map .float
  else some (.integer n)

/-- The value of a literal.  A number too great to be finite is told with
the number of exponent digits that were not looked at. -/
def Literal.value (l : Literal) : Except Nat Number :=
  let (wholePart, wholeLeft) := absorb significandLimit 0 l.whole
  let (significand, fractionLeft) := absorb significandLimit wholePart l.fraction
  let shift : Int := (wholeLeft.length : Int) - (l.fraction.length - fractionLeft.length : Nat)
  let finite (e : Int) : Except Nat Number :=
    match float? l.negative significand e with
    | some x => .ok (.float x)
    | none => .error 0
  match l.exponent with
  | some (negative, digits) =>
    match absorb exponentLimit 0 digits with
    | (e, []) => finite (if negative then shift - e else shift + e)
    | (_, unread) =>
      if significand ≠ 0 ∧ !negative then .error (unread.length - 1)
      else .ok (.float ⟨l.negative, Magnitude.zero⟩)
  | none =>
    if l.fraction = [] ∧ wholeLeft = [] then
      match integer? l.negative significand with
      | some n => .ok n
      | none => .error 0
    else finite shift

/-- Read a number; its minus sign, if it has one, is already read. -/
def readNumber (negative : Bool) (input : Input) : Except Fault (Number × Input) := do
  let (literal, rest) ← readLiteral negative input
  match literal.value with
  | .ok n => return (n, rest)
  | .error unread => fault .numberOutOfRange (width rest + unread)

/-! ## Samples -/

/-- Thirty ones give a number beside the nearest one. -/
example : (Literal.value ⟨false, List.replicate 30 1, [], none⟩).toOption.map
    (fun n => String.ofList n.chars) = some "1.111111111111111e+29" := by decide +kernel

/-- `-0` is a floating-point number. -/
example : (Literal.value ⟨true, [0], [], none⟩).toOption =
    some (.float ⟨true, Magnitude.zero⟩) := by decide +kernel

end Json

end EventFeed
