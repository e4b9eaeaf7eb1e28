import EventFeed.Json.Reader.Value

/-!
# EventFeed.Json.Reader.Skip

Passing over a value that nobody wants.  The value has to be well formed,
but numbers may be of any size, strings may hold damaged text, and the
brackets that are open are kept in a list, so there is no limit on how
deep it may be.
-/

namespace EventFeed

namespace Json

/-- The two kinds of container. -/
inductive Bracket where
  | list
  | object
deriving Repr, DecidableEq

namespace Bracket

/-- The character that closes the container. -/
def closing : Bracket → Char
  | .list => ']'
  | .object => '}'

/-- What is unfinished while the container is open. -/
def unfinished : Bracket → Unfinished
  | .list => .list
  | .object => .object

/-- What is missing between two of its parts. -/
def expectedComma : Bracket → Cause
  | .list => .expectedCommaOrBracket
  | .object => .expectedCommaOrBrace

end Bracket

/-- Pass over a number; its minus sign, if it has one, is already read. -/
def skipNumber (input : Input) : Except Fault Input :=
  match readLiteral false input with
  | .ok (_, rest) => .ok rest
  | .error f => .error { f with cause := .invalidNumber }

/-- Pass over a value without parts. -/
def skipAtom (input : Input) : Except Fault Input :=
  match input with
  | [] => fault (.ended .value) 0
  | .char 'n' :: rest => readWord ['u', 'l', 'l'] rest
  | .char 't' :: rest => readWord ['r', 'u', 'e'] rest
  | .char 'f' :: rest => readWord ['a', 'l', 's', 'e'] rest
  | .char '"' :: rest => skipString rest
  | .char '-' :: rest => skipNumber rest
  | s :: rest =>
    match digit? s with
    | some _ => skipNumber (s :: rest)
    | none => fault .expectedValue (behindNext (s :: rest))

/-- Pass over what comes before the value of a part: nothing in a list,
the name and the colon in an object. -/
def skipName (b : Bracket) (input : Input) : Except Fault Input :=
  match b with
  | .list => .ok input
  | .object =>
    match skipSpace input with
    | [] => fault (.ended .object) 0
    | .char '"' :: rest => do readColon (← skipString rest)
    | rest => fault .keyNotString (behindNext rest)

/-- What is due next: a value, or the next part of the innermost open
container, which a comma precedes unless it is the first one. -/
inductive Due where
  | value
  | part (comma : Bool)
deriving Repr, DecidableEq

/-- Pass over what is left of a value: `opened` holds the open containers,
the innermost one first. -/
def skipOn : Nat → Due → List Bracket → Input → Except Fault Input
  | 0, _, _, _ => fault .expectedValue 0
  | bound + 1, .value, opened, input =>
    match skipSpace input with
    | .char '[' :: rest => skipOn bound (.part false) (.list :: opened) rest
    | .char '{' :: rest => skipOn bound (.part false) (.object :: opened) rest
    | rest => do skipOn bound (.part true) opened (← skipAtom rest)
  | _ + 1, .part _, [], input => .ok input
  | bound + 1, .part comma, b :: opened, input =>
    match skipSpace input with
    | [] => fault (.ended b.unfinished) 0
    | s :: rest =>
      if s = .char ',' ∧ comma = true then do
        skipOn bound .value (b :: opened) (← skipName b rest)
      else if s = .char b.closing then skipOn bound (.part true) opened rest
      else if comma then fault b.expectedComma (behindNext (s :: rest))
      else do skipOn bound .value (b :: opened) (← skipName b (s :: rest))

/-- Pass over a value.  Of two steps at least one takes a symbol, so twice
the length of the text is enough. -/
def skipValue (bound : Nat) (input : Input) : Except Fault Input :=
  skipOn (2 * bound) .value [] input

/-! ## Samples -/

/-- Numbers of any size, lone surrogates and any depth may be skipped. -/
example : (skipValue 40 (Utf8.ofText "[1e999,\x7b\"\\ud800\":[]\x7d]!")).toOption =
    some [.char '!'] := by decide +kernel

end Json

end EventFeed
