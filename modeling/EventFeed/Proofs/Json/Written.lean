import EventFeed.Proofs.Json.Digits
import EventFeed.Json.Reader.Value

/-!
# EventFeed.Proofs.Json.Written

JSON values as they are written.  `Written` is the syntax tree of a text: it
tells apart `1` from `1.0e0` and `"a"` from `"\u0061"`, and keeps the members of
an object in their order, each as often as it stands there.  Its tokens may
stand in a text with any white space around them (`Spaced`), and `value?` is
what a reader that goes so deep makes of the tree.
-/

namespace EventFeed

namespace Json

/-! ## Strings -/

/-- A piece of a string: a character that stands for itself, a byte of damaged
text, the escape of a character by a letter, or that of a unit by four digits. -/
inductive Piece where
  | plain (c : Char) (valid : c ≠ '"' ∧ c ≠ '\\' ∧ 0x20 ≤ c.toNat)
  | stray (b : UInt8)
  | letter (c e : Char) (valid : escaped? c = some e)
  | unit (a b c d : Char) (n : Nat) (valid : hexQuad? a b c d = some n)

/-- The symbols of a piece. -/
def Piece.symbols : Piece → Input
  | .plain c _ => [.char c]
  | .stray b => [.stray b]
  | .letter c _ _ => [.char '\\', .char c]
  | .unit a b c d _ _ => [.char '\\', .char 'u', .char a, .char b, .char c, .char d]

/-- The symbols of pieces behind a quote, and the quote that closes them. -/
def closed (ps : List Piece) : Input := ps.flatMap Piece.symbols ++ [.char '"']

/-- The characters that pieces stand for, if there is no damage and the units
of surrogates pair up. -/
def chars? : List Piece → Option (List Char)
  | [] => some []
  | .plain c _ :: ps => (chars? ps).map (c :: ·)
  | .stray _ :: _ => none
  | .letter _ e _ :: ps => (chars? ps).map (e :: ·)
  | .unit _ _ _ _ n _ :: ps =>
    if isLow n then none
    else if isHigh n then
      match ps with
      | .unit _ _ _ _ m _ :: ps => if isLow m then (chars? ps).map (paired n m :: ·) else none
      | _ => none
    else (chars? ps).map (Char.ofNat n :: ·)

/-- The text that pieces stand for. -/
def text? (ps : List Piece) : Option String := (chars? ps).map String.ofList

/-- The pieces of a text that needs no escapes; a character that needs one is
left out. -/
def plainly (s : String) : List Piece :=
  s.toList.filterMap fun c =>
    if h : c ≠ '"' ∧ c ≠ '\\' ∧ 0x20 ≤ c.toNat then some (.plain c h) else none

/-! ## Numbers -/

/-- Digits, at least one. -/
def IsDigits (cs : List Char) : Prop := cs ≠ [] ∧ ∀ c ∈ cs, c.isDigit = true

/-- The exponent of a number: its letter, its sign and its digits. -/
structure Power where
  capital : Bool
  negative : Option Bool
  digits : List Char
  valid : IsDigits digits

/-- A number: its sign, the digits before the point, which start with a zero
only if there is no other, those behind it, and its exponent. -/
structure Figures where
  negative : Bool
  whole : List Char
  fraction : List Char
  power : Option Power
  whole_valid : IsDigits whole ∧ (whole.head? = some '0' → whole = ['0'])
  fraction_valid : ∀ c ∈ fraction, c.isDigit = true

namespace Power

/-- The sign of an exponent and its digits. -/
def signed (p : Power) : List Char :=
  match p.negative with
  | none => p.digits
  | some true => '-' :: p.digits
  | some false => '+' :: p.digits

/-- The characters of an exponent. -/
def chars (p : Power) : List Char := (if p.capital then 'E' else 'e') :: p.signed

/-- Its sign and its digits as a reader has them. -/
def literal (p : Power) : Bool × List Nat :=
  (p.negative.getD false, p.digits.map digitValue)

end Power

namespace Figures

/-- The characters of a fraction, the point among them. -/
def fractionChars (f : Figures) : List Char := if f.fraction = [] then [] else '.' :: f.fraction

/-- The characters of an exponent, if there is one. -/
def powerChars (f : Figures) : List Char := f.power.elim [] Power.chars

/-- The characters of a number behind its sign. -/
def unsigned (f : Figures) : List Char := f.whole ++ (f.fractionChars ++ f.powerChars)

/-- The characters of a number. -/
def chars (f : Figures) : List Char := if f.negative then '-' :: f.unsigned else f.unsigned

/-- The literal that a reader makes of it. -/
def literal (f : Figures) (negative : Bool) : Literal :=
  ⟨negative, f.whole.map digitValue, f.fraction.map digitValue, f.power.map Power.literal⟩

/-- The number that it stands for. -/
def value? (f : Figures) : Option Number := (f.literal f.negative).value.toOption

end Figures

/-! ## Values -/

/-- A JSON value as it is written. -/
inductive Written where
  | null
  | bool (b : Bool)
  | number (f : Figures)
  | string (ps : List Piece)
  | array (items : List Written)
  | object (members : List (List Piece × Written))

namespace Written

/-- Symbols that have one character each. -/
def token (cs : List Char) : Input := cs.map .char

/-- The token of a string. -/
def quote (ps : List Piece) : Input := .char '"' :: closed ps

mutual

/-- The tokens of a value. -/
def tokens : Written → List Input
  | .null => [token ['n', 'u', 'l', 'l']]
  | .bool true => [token ['t', 'r', 'u', 'e']]
  | .bool false => [token ['f', 'a', 'l', 's', 'e']]
  | .number f => [token f.chars]
  | .string ps => [quote ps]
  | .array [] => [token ['['], token [']']]
  | .array (x :: xs) => token ['['] :: (x.tokens ++ moreItems xs)
  | .object [] => [token ['{'], token ['}']]
  | .object ((k, x) :: ms) =>
    token ['{'] :: quote k :: token [':'] :: (x.tokens ++ moreMembers ms)

/-- The tokens of the items behind the first one, and of the bracket. -/
def moreItems : List Written → List Input
  | [] => [token [']']]
  | x :: xs => token [','] :: (x.tokens ++ moreItems xs)

/-- The tokens of the members behind the first one, and of the brace. -/
def moreMembers : List (List Piece × Written) → List Input
  | [] => [token ['}']]
  | (k, x) :: ms => token [','] :: quote k :: token [':'] :: (x.tokens ++ moreMembers ms)

end

/-- Put members into an object, one after the other, if their names and values
can be read. -/
def insertAll? (value? : Written → Option Json) :
    List (String × Json) → List (List Piece × Written) → Option (List (String × Json))
  | done, [] => some done
  | done, (k, x) :: ms => do
    let name ← text? k
    let v ← value? x
    insertAll? value? (insert name v done) ms

/-- What a reader that goes so deep makes of a tree. -/
def value? : Nat → Written → Option Json
  | depth, w =>
    match w with
    | .null => some .null
    | .bool b => some (.bool b)
    | .number f => f.value?.map .number
    | .string ps => (text? ps).map .string
    | .array items =>
      match depth with
      | 0 => none
      | depth + 1 => (items.mapM (value? depth)).map .array
    | .object members =>
      match depth with
      | 0 => none
      | depth + 1 => (insertAll? (value? depth) [] members).map .object

end Written

/-! ## White space -/

/-- The tokens, one after the other, with any white space before each and at the
end. -/
inductive Spaced : List Input → Input → Prop
  | done {blank : Input} (white : ∀ s ∈ blank, isSpace s = true) : Spaced [] blank
  | next {blank : Input} (white : ∀ s ∈ blank, isSpace s = true) (t : Input) {ts : List Input}
      {rest : Input} : Spaced ts rest → Spaced (t :: ts) (blank ++ (t ++ rest))

/-- A text of the tokens with the same white space before each. -/
def spread (blank : Input) (ts : List Input) : Input := ts.flatMap fun t => blank ++ t

theorem spaced_spread {blank : Input} (h : ∀ s ∈ blank, isSpace s = true) {ts : List Input}
    {input : Input} (hinput : input = spread blank ts) : Spaced ts input := by
  subst hinput
  induction ts with
  | nil => exact .done (List.forall_mem_nil _)
  | cons t ts ih =>
    have hspread : spread blank (t :: ts) = blank ++ (t ++ spread blank ts) := by
      rw [spread, List.flatMap_cons, List.append_assoc]
      rfl
    rw [hspread]
    exact .next h t ih

/-- What may come behind a value: a comma, a bracket, a brace, or nothing. -/
def Ends (more : List Input) : Prop :=
  ∀ t ∈ more.head?, t = Written.token [','] ∨ t = Written.token [']'] ∨ t = Written.token ['}']

end Json

end EventFeed
