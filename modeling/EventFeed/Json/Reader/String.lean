import EventFeed.Json.Reader.Basic
import EventFeed.Text.Numeral

/-!
# EventFeed.Json.Reader.String

JSON strings.  `readString` gives the text a string stands for, and
refuses damaged UTF-8 and escapes of surrogates that do not pair up;
`skipString` only looks for the end of the string, so both may stand in a
string that nobody wants.

An escape `\u` takes the four bytes behind it, whatever they are.
-/

namespace EventFeed

namespace Json

open Utf8 (width)

/-! ## Escapes -/

/-- The character of an escape of one letter. -/
def escaped? (c : Char) : Option Char :=
  if c = '"' then some '"'
  else if c = '\\' then some '\\'
  else if c = '/' then some '/'
  else if c = 'b' then some '\x08'
  else if c = 'f' then some '\x0c'
  else if c = 'n' then some '\n'
  else if c = 'r' then some '\r'
  else if c = 't' then some '\t'
  else none

/-- The 16-bit unit of four hexadecimal digits. -/
def unit? : Symbol → Symbol → Symbol → Symbol → Option Nat
  | .char a, .char b, .char c, .char d => hexQuad? a b c d
  | _, _, _, _ => none

/-- Why the text behind `\u` is no escape: it ends within four bytes, or
the four bytes are no hexadecimal digits. -/
def badUnit {α : Type} (input : Input) : Except Fault α :=
  if width input < 4 then fault (.ended .string) 0
  else fault .invalidEscape (width input - 4)

/-- Units that open a surrogate pair. -/
def isHigh (n : Nat) : Bool := 0xD800 ≤ n && n ≤ 0xDBFF

/-- Units that close a surrogate pair. -/
def isLow (n : Nat) : Bool := 0xDC00 ≤ n && n ≤ 0xDFFF

/-- The character of a surrogate pair. -/
def paired (high low : Nat) : Char :=
  Char.ofNat ((high - 0xD800) * 0x400 + (low - 0xDC00) + 0x10000)

/-- Why no low surrogate follows a high one: the text that stands in the
place of its `\u` ends too early or is something else. -/
def unpaired {α : Type} : Input → Except Fault α
  | [] => fault (.ended .string) 0
  | [.char '\\'] => fault (.ended .string) 0
  | .char '\\' :: rest => fault .unpairedSurrogate (behindNext rest)
  | rest => fault .unpairedSurrogate (behindNext rest)

/-! ## Reading -/

/-- How many bytes of the string's text there are from the first damaged
one on, after one more character; none if there is no damage. -/
def damageAfter (c : Char) (damage : Option Nat) : Option Nat := damage.map (· + c.utf8Size)

/-- Read the rest of a string whose opening quote is read.  `done` holds
its characters so far, the last one first, and `damage` how many bytes of
text there are from the first damaged one on.  Damage is told at the end of
the string, at a place that lies so many bytes before that end. -/
def readStringFrom (damage : Option Nat) (done : List Char) : Input → Read String
  | [] => fault (.ended .string) 0
  | .stray _ :: rest => readStringFrom (some (damage.getD 0 + 1)) done rest
  | .char '"' :: rest =>
    match damage with
    | none => .ok (String.ofList done.reverse, rest)
    | some n => fault .invalidCodePoint (width rest + n)
  | .char '\\' :: .char 'u' :: a :: b :: c :: d :: rest =>
    match unit? a b c d with
    | none => badUnit (a :: b :: c :: d :: rest)
    | some n =>
      if isLow n then fault .loneSurrogate (width rest)
      else if isHigh n then
        match rest with
        | .char '\\' :: .char 'u' :: e :: f :: g :: h :: rest =>
          match unit? e f g h with
          | none => badUnit (e :: f :: g :: h :: rest)
          | some m =>
            if isLow m then
              readStringFrom (damageAfter (paired n m) damage) (paired n m :: done) rest
            else fault .loneSurrogate (width rest)
        | .char '\\' :: .char 'u' :: rest => badUnit rest
        | rest => unpaired rest
      else readStringFrom (damageAfter (Char.ofNat n) damage) (Char.ofNat n :: done) rest
  | .char '\\' :: .char 'u' :: rest => badUnit rest
  | .char '\\' :: .char c :: rest =>
    match escaped? c with
    | some e => readStringFrom (damageAfter e damage) (e :: done) rest
    | none => fault .invalidEscape (behindNext (.char c :: rest))
  | .char '\\' :: rest =>
    match rest with
    | [] => fault (.ended .string) 0
    | rest => fault .invalidEscape (behindNext rest)
  | .char c :: rest =>
    if c.toNat < 0x20 then fault .controlCharacter (width rest)
    else readStringFrom (damageAfter c damage) (c :: done) rest

/-- Read the rest of a string whose opening quote is read. -/
def readString (input : Input) : Read String := readStringFrom none [] input

/-! ## Skipping -/

/-- Find the end of a string whose opening quote is read. -/
def skipString : Input → Except Fault Input
  | [] => fault (.ended .string) 0
  | .stray _ :: rest => skipString rest
  | .char '"' :: rest => .ok rest
  | .char '\\' :: .char 'u' :: a :: b :: c :: d :: rest =>
    match unit? a b c d with
    | none => badUnit (a :: b :: c :: d :: rest)
    | some _ => skipString rest
  | .char '\\' :: .char 'u' :: rest => badUnit rest
  | .char '\\' :: .char c :: rest =>
    match escaped? c with
    | some _ => skipString rest
    | none => fault .invalidEscape (behindNext (.char c :: rest))
  | .char '\\' :: rest =>
    match rest with
    | [] => fault (.ended .string) 0
    | rest => fault .invalidEscape (behindNext rest)
  | .char c :: rest =>
    if c.toNat < 0x20 then fault .controlCharacter (width (.char c :: rest))
    else skipString rest

/-! ## Samples -/

example : (readString (Utf8.ofText "a\\u00e9\\ud83d\\ude00\"!")).toOption =
    some ("aé😀", [.char '!']) := by decide +kernel

end Json

end EventFeed
