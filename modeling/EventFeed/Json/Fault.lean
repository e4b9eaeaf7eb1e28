import EventFeed.Json.Printer
import EventFeed.Text.Quoted
import EventFeed.Text.Utf8

/-!
# EventFeed.Json.Fault

What a reader of JSON finds wrong.  A fault has a cause, a place and a
path.  The place is kept as the number of bytes that lie behind it, so a
reader needs no counter; line and column are computed when somebody asks.
The path names the members and items around the fault, from the outside
in.

A text is *malformed* at the first character that no JSON value can have
there, *truncated* if it ends too early, and *unsuitable* if it is well
formed so far but is not of the shape asked for.
-/

namespace EventFeed

namespace Json

/-- The three ways in which a text can fail to be read. -/
inductive Category where
  | malformed
  | truncated
  | unsuitable
deriving Repr, DecidableEq

/-- What was being read when the text ended. -/
inductive Unfinished where
  | list
  | object
  | string
  | value
deriving Repr, DecidableEq

/-- A value without parts. -/
inductive Atom where
  | null
  | bool (b : Bool)
  | number (n : Number)
  | string (s : String)
deriving Repr, DecidableEq

/-- The value that an atom is. -/
def Atom.toJson : Atom → Json
  | .null => .null
  | .bool b => .bool b
  | .number n => .number n
  | .string s => .string s

/-- What stood where something else was asked for. -/
inductive Found where
  | atom (a : Atom)
  | sequence
  | map
deriving Repr, DecidableEq

/-- Why a text was refused. -/
inductive Cause where
  | ended (inside : Unfinished)
  | expectedColon
  | expectedCommaOrBracket
  | expectedCommaOrBrace
  | expectedWord
  | expectedValue
  | invalidEscape
  | invalidNumber
  | numberOutOfRange
  | invalidCodePoint
  | controlCharacter
  | keyNotString
  | loneSurrogate
  | trailingComma
  | trailingCharacters
  | unpairedSurrogate
  | tooDeep
  | invalidType (found : Found) (wanted : String)
  | invalidLength (length : Nat) (wanted : String)
  | missingField (name : String)
  | duplicateField (name : String)
  | unknownVariant (name : String) (known : List String)
  | invalidValue (reason : String)
deriving Repr, DecidableEq

/-- A step from a value to one of its parts.  A member whose name was not
read yet is unknown. -/
inductive Step where
  | item (index : Nat)
  | member (name : String)
  | unknown
deriving Repr, DecidableEq

/-- A fault: its cause, how many bytes lie behind its place, and the path
to it. -/
structure Fault where
  cause : Cause
  behind : Nat
  path : List Step
deriving Repr, DecidableEq

/-- A fault in the value that is being read. -/
def fault {α : Type} (cause : Cause) (behind : Nat) : Except Fault α :=
  .error ⟨cause, behind, []⟩

/-- Faults found inside a part lie one step further down. -/
def under {α : Type} (step : Step) : Except Fault α → Except Fault α
  | .ok x => .ok x
  | .error f => .error { f with path := step :: f.path }

@[simp] theorem under_ok {α : Type} (step : Step) (x : α) : under step (.ok x) = .ok x := rfl

theorem under_eq_ok_iff {α : Type} {step : Step} {r : Except Fault α} {x : α} :
    under step r = .ok x ↔ r = .ok x := by
  cases r <;> simp [under]

/-! ## Wording -/

/-- The kind of failure a cause belongs to. -/
def Cause.category : Cause → Category
  | .ended _ => .truncated
  | .invalidType .. | .invalidLength .. | .missingField .. | .duplicateField ..
  | .unknownVariant .. | .invalidValue .. => .unsuitable
  | _ => .malformed

/-- What was unfinished, with its article. -/
def Unfinished.text : Unfinished → String
  | .list => "a list"
  | .object => "an object"
  | .string => "a string"
  | .value => "a value"

/-- What was found, as a message says it. -/
def Found.text : Found → String
  | .atom .null => "null"
  | .atom (.bool true) => "boolean `true`"
  | .atom (.bool false) => "boolean `false`"
  | .atom (.number (.integer n)) => "integer `" ++ String.ofList (intChars n) ++ "`"
  | .atom (.number (.float x)) => "floating point `" ++ String.ofList x.chars ++ "`"
  | .atom (.string s) => "string " ++ quoted s
  | .sequence => "sequence"
  | .map => "map"

/-- The known names of a choice, as a message lists them. -/
def choices : List String → String
  | [] => "there are no variants"
  | [a] => "expected `" ++ a ++ "`"
  | [a, b] => "expected `" ++ a ++ "` or `" ++ b ++ "`"
  | names => "expected one of " ++ ", ".intercalate (names.map fun n => "`" ++ n ++ "`")

/-- The cause in words. -/
def Cause.message : Cause → String
  | .ended inside => "EOF while parsing " ++ inside.text
  | .expectedColon => "expected `:`"
  | .expectedCommaOrBracket => "expected `,` or `]`"
  | .expectedCommaOrBrace => "expected `,` or `\x7d`"
  | .expectedWord => "expected ident"
  | .expectedValue => "expected value"
  | .invalidEscape => "invalid escape"
  | .invalidNumber => "invalid number"
  | .numberOutOfRange => "number out of range"
  | .invalidCodePoint => "invalid unicode code point"
  | .controlCharacter =>
    "control character (\\u0000-\\u001F) found while parsing a string"
  | .keyNotString => "key must be a string"
  | .loneSurrogate => "lone leading surrogate in hex escape"
  | .trailingComma => "trailing comma"
  | .trailingCharacters => "trailing characters"
  | .unpairedSurrogate => "unexpected end of hex escape"
  | .tooDeep => "recursion limit exceeded"
  | .invalidType found wanted => "invalid type: " ++ found.text ++ ", expected " ++ wanted
  | .invalidLength length wanted =>
    "invalid length " ++ String.ofList (Nat.toDigits 10 length) ++ ", expected " ++ wanted
  | .missingField name => "missing field `" ++ name ++ "`"
  | .duplicateField name => "duplicate field `" ++ name ++ "`"
  | .unknownVariant name known => "unknown variant `" ++ name ++ "`, " ++ choices known
  | .invalidValue reason => reason

/-! ## Place -/

/-- A place in a text: the line, from one, and how many bytes of the line
lie before it. -/
structure Place where
  line : Nat
  column : Nat
deriving Repr, DecidableEq

/-- The place after the bytes given. -/
def Place.after (bytes : List UInt8) : Place :=
  bytes.foldl (fun p b => if b = 0x0A then ⟨p.line + 1, 0⟩ else ⟨p.line, p.column + 1⟩) ⟨1, 0⟩

/-- Where in the text a fault lies. -/
def Fault.place (text : List UInt8) (f : Fault) : Place :=
  Place.after (text.take (text.length - f.behind))

/-! ## Path -/

/-- A step, and the dot before it if it is not the first. -/
def Step.text (first : Bool) : Step → String
  | .item index => "[" ++ String.ofList (Nat.toDigits 10 index) ++ "]"
  | .member name => if first then name else "." ++ name
  | .unknown => if first then "?" else ".?"

/-- A path in words: `data.list[2]`. -/
def pathText : List Step → String
  | [] => "."
  | s :: rest => s.text true ++ String.join (rest.map (Step.text false))

/-- The fault in words: its path, if that says anything, then the cause
and the place. -/
def Fault.message (text : List UInt8) (f : Fault) : String :=
  let place := f.place text
  let label := if f.path.all (· == .unknown) then "" else pathText f.path ++ ": "
  label ++ f.cause.message ++ " at line " ++ String.ofList (Nat.toDigits 10 place.line) ++
    " column " ++ String.ofList (Nat.toDigits 10 place.column)

end Json

end EventFeed
