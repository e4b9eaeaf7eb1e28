import EventFeed.Json.Fault

/-!
# EventFeed.Json.Reader.Basic

The ground the readers stand on.  A reader takes the rest of the text and
gives what it read together with the rest behind it; the position is the
rest itself.  White space between tokens is the space, the tab and the
two line-end characters, and nothing else.
-/

namespace EventFeed

namespace Json

open Utf8 (width)

/-- What a reader gives: the thing read and the rest of the text, or a
fault. -/
abbrev Read (α : Type) := Except Fault (α × Input)

/-- JSON's white space. -/
def isSpace : Symbol → Bool
  | .char c => c == ' ' || c == '\t' || c == '\n' || c == '\r'
  | .stray _ => false

/-- The text behind the white space. -/
def skipSpace (input : Input) : Input := input.dropWhile isSpace

/-- How many bytes lie behind the next one: the place of a fault in the
byte that was looked at, or at the end of the text. -/
def behindNext (input : Input) : Nat := width input - 1

/-- Read the remaining letters of a word. -/
def readWord : List Char → Input → Except Fault Input
  | [], rest => .ok rest
  | _ :: _, [] => fault (.ended .value) 0
  | c :: cs, s :: rest =>
    if s = .char c then readWord cs rest else fault .expectedWord (behindNext (s :: rest))

/-- Nothing but white space may follow a value. -/
def finish (input : Input) : Except Fault Unit :=
  match skipSpace input with
  | [] => .ok ()
  | rest => fault .trailingCharacters (behindNext rest)

/-- Read a colon. -/
def readColon (input : Input) : Except Fault Input :=
  match skipSpace input with
  | .char ':' :: rest => .ok rest
  | [] => fault (.ended .object) 0
  | rest => fault .expectedColon (behindNext rest)

/-! ## Lemmas -/

@[simp] theorem skipSpace_nil : skipSpace [] = [] := rfl

/-- Behind white space there is none. -/
theorem skipSpace_skipSpace (input : Input) : skipSpace (skipSpace input) = skipSpace input := by
  induction input with
  | nil => rfl
  | cons s r ih =>
    by_cases h : isSpace s
    · simpa [skipSpace, List.dropWhile_cons, h] using ih
    · simp [skipSpace, h]

end Json

end EventFeed
