import EventFeed.Json.Basic
import EventFeed.Number.Shortest
import EventFeed.Text.Numeral

/-!
# EventFeed.Json.Printer

The text of a JSON value: no spaces, members in the order of the value,
and nothing escaped that may stand as it is.

A floating-point number is written with its shortest digits: positionally
while the power of ten of its leading digit lies in `-5 … 15`, always with
a digit after the point; otherwise with an exponent that shows its sign.
-/

namespace EventFeed

/-! ## Strings -/

/-- A lower-case hexadecimal digit. -/
def hexDigit (n : Nat) : Char := Nat.digitChar n

/-- How one character is written inside a JSON string. -/
def Json.escapeChar (c : Char) : List Char :=
  if c = '"' then ['\\', '"']
  else if c = '\\' then ['\\', '\\']
  else if c = '\x08' then ['\\', 'b']
  else if c = '\x0c' then ['\\', 'f']
  else if c = '\n' then ['\\', 'n']
  else if c = '\r' then ['\\', 'r']
  else if c = '\t' then ['\\', 't']
  else if c.toNat < 0x20 then
    ['\\', 'u', '0', '0', hexDigit (c.toNat / 16), hexDigit (c.toNat % 16)]
  else [c]

/-- A string between its quotes. -/
def Json.stringChars (s : String) : List Char :=
  '"' :: s.toList.flatMap Json.escapeChar ++ ['"']

/-! ## Numbers -/

/-- An integer in decimal. -/
def intChars (n : Int) : List Char :=
  if n < 0 then '-' :: Nat.toDigits 10 n.natAbs else Nat.toDigits 10 n.natAbs

/-- Where the printer of floating-point numbers turns to exponents. -/
structure FloatStyle where
  /-- The least power of ten of a leading digit that is written
  positionally. -/
  least : Int
  /-- The greatest one. -/
  greatest : Int

/-- JSON text writes `0.00001` and `1000000000000000.0`, but `1e-6` and
`1e+16`. -/
def Json.floats : FloatStyle := ⟨-5, 15⟩

/-- The text of a decimal number, with a fraction of at least one digit
or with an exponent. -/
def Decimal.chars (style : FloatStyle) (d : Decimal) : List Char :=
  let digits := Nat.toDigits 10 d.digits
  let power : Int := d.exponent + digits.length - 1
  if style.least ≤ power ∧ power ≤ style.greatest then
    if 0 ≤ d.exponent then digits ++ List.replicate d.exponent.toNat '0' ++ ['.', '0']
    else if 0 ≤ power then
      digits.take (power.toNat + 1) ++ '.' :: digits.drop (power.toNat + 1)
    else '0' :: '.' :: List.replicate (-power - 1).toNat '0' ++ digits
  else
    let fraction := if digits.length = 1 then [] else '.' :: digits.drop 1
    let sign := if power < 0 then '-' else '+'
    digits.take 1 ++ fraction ++ 'e' :: sign :: Nat.toDigits 10 power.natAbs

/-- The text of a floating-point number. -/
def Binary64.chars (x : Binary64) : List Char :=
  let body := x.magnitude.shortest.chars Json.floats
  if x.negative then '-' :: body else body

/-- The text of a number. -/
def Number.chars : Number → List Char
  | .integer n => intChars n
  | .float x => x.chars

/-! ## Values -/

namespace Json

mutual

/-- The characters of a value. -/
def chars : Json → List Char
  | .null => ['n', 'u', 'l', 'l']
  | .bool true => ['t', 'r', 'u', 'e']
  | .bool false => ['f', 'a', 'l', 's', 'e']
  | .number n => n.chars
  | .string s => stringChars s
  | .array [] => ['[', ']']
  | .array (x :: xs) => '[' :: x.chars ++ itemsChars xs
  | .object [] => ['{', '}']
  | .object ((k, x) :: ms) => '{' :: stringChars k ++ ':' :: x.chars ++ membersChars ms

/-- The items after the first one, and the bracket that closes them. -/
def itemsChars : List Json → List Char
  | [] => [']']
  | x :: xs => ',' :: x.chars ++ itemsChars xs

/-- The members after the first one, and the brace that closes them. -/
def membersChars : List (String × Json) → List Char
  | [] => ['}']
  | (k, x) :: ms => ',' :: stringChars k ++ ':' :: x.chars ++ membersChars ms

end

/-- The text of a value. -/
def text (j : Json) : String := String.ofList j.chars

/-- The text of an object whose members stand in the order given. -/
def record (members : List (String × Json)) : String := (Json.object members).text

/-! ## Samples -/

example : (Json.array [.null, .bool true, ofNat 7]).text = "[null,true,7]" := by decide +kernel

example : (Json.string "a\"\n\x01é").text = "\"a\\\"\\n\\u0001é\"" := by decide +kernel

example : ((Magnitude.ofRatio? 100 1).map fun x => String.ofList (Binary64.chars ⟨false, x⟩)) =
    some "100.0" := by decide +kernel

end Json

end EventFeed
