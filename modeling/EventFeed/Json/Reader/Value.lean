import EventFeed.Json.Reader.Number
import EventFeed.Json.Reader.String

/-!
# EventFeed.Json.Reader.Value

Values, and the steps from item to item and from member to member that
every reader of a list or an object takes.

`readValue bound depth` opens at most `depth` containers inside one
another, and `bound` is any number not below the length of the text: it
only limits how many items or members a container can have.
-/

namespace EventFeed

namespace Json

open Utf8 (width)

/-! ## Lists and objects, step by step -/

/-- Is there another item?  Its text if so; `none` in front of the closing
bracket. -/
def nextItem (first : Bool) (input : Input) : Except Fault (Option Input) :=
  match skipSpace input with
  | [] => fault (.ended .list) 0
  | .char ']' :: _ => .ok none
  | .char ',' :: rest =>
    if first then .ok (some (.char ',' :: rest))
    else
      match skipSpace rest with
      | [] => fault (.ended .value) 0
      | .char ']' :: rest => fault .trailingComma (behindNext (.char ']' :: rest))
      | rest => .ok (some rest)
  | rest => if first then .ok (some rest) else fault .expectedCommaOrBracket (behindNext rest)

/-- Is there another member?  The text behind the opening quote of its
name if so; `none` in front of the closing brace. -/
def nextMember (first : Bool) (input : Input) : Except Fault (Option Input) :=
  match skipSpace input with
  | [] => fault (.ended .object) 0
  | .char '}' :: _ => .ok none
  | .char ',' :: rest =>
    if first then fault .keyNotString (behindNext (.char ',' :: rest))
    else
      match skipSpace rest with
      | [] => fault (.ended .value) 0
      | .char '"' :: rest => .ok (some rest)
      | .char '}' :: rest => fault .trailingComma (behindNext (.char '}' :: rest))
      | rest => fault .keyNotString (behindNext rest)
  | .char '"' :: rest =>
    if first then .ok (some rest)
    else fault .expectedCommaOrBrace (behindNext (.char '"' :: rest))
  | rest => fault (if first then .keyNotString else .expectedCommaOrBrace) (behindNext rest)

/-- Read the bracket that closes a list. -/
def closeList (input : Input) : Except Fault Input :=
  match skipSpace input with
  | [] => fault (.ended .list) 0
  | .char ']' :: rest => .ok rest
  | .char ',' :: rest =>
    match skipSpace rest with
    | .char ']' :: rest => fault .trailingComma (behindNext (.char ']' :: rest))
    | rest => fault .trailingCharacters (behindNext rest)
  | rest => fault .trailingCharacters (behindNext rest)

/-- Read the brace that closes an object. -/
def closeObject (input : Input) : Except Fault Input :=
  match skipSpace input with
  | [] => fault (.ended .object) 0
  | .char '}' :: rest => .ok rest
  | .char ',' :: rest => fault .trailingComma (behindNext (.char ',' :: rest))
  | rest => fault .trailingCharacters (behindNext rest)

/-! ## Atoms -/

/-- Read a value without parts. -/
def readAtom (input : Input) : Except Fault (Atom × Input) :=
  match input with
  | [] => fault (.ended .value) 0
  | .char 'n' :: rest => (readWord ['u', 'l', 'l'] rest).map (.null, ·)
  | .char 't' :: rest => (readWord ['r', 'u', 'e'] rest).map (.bool true, ·)
  | .char 'f' :: rest => (readWord ['a', 'l', 's', 'e'] rest).map (.bool false, ·)
  | .char '"' :: rest => (readString rest).map fun (s, rest) => (.string s, rest)
  | .char '-' :: rest => (readNumber true rest).map fun (n, rest) => (.number n, rest)
  | s :: rest =>
    match digit? s with
    | some _ => (readNumber false (s :: rest)).map fun (n, rest) => (.number n, rest)
    | none => fault .expectedValue (behindNext (s :: rest))

/-- Refuse the value that the text starts with, telling what it is. -/
def refuse {α : Type} (wanted : String) (input : Input) : Except Fault α :=
  match input with
  | .char '[' :: rest => fault (.invalidType .sequence wanted) (width (.char '[' :: rest))
  | .char '{' :: rest => fault (.invalidType .map wanted) (width (.char '{' :: rest))
  | input =>
    match readAtom input with
    | .ok (a, rest) => fault (.invalidType (.atom a) wanted) (width rest)
    | .error f => .error f

/-! ## Values -/

/-- Read the items of a list, each with `item`, and the closing bracket.
`done` holds the `index` items read so far, the last one first. -/
def readItems (item : Input → Read Json) :
    Nat → Nat → List Json → Input → Except Fault (List Json × Input)
  | 0, _, _, _ => fault .expectedValue 0
  | bound + 1, index, done, input => do
    match ← nextItem (index == 0) input with
    | none => return (done.reverse, ← closeList input)
    | some rest =>
      let (x, rest) ← under (.item index) (item rest)
      readItems item bound (index + 1) (x :: done) rest

/-- Read the members of an object, the value of each with `value`, and the
closing brace.  `done` holds the members read so far. -/
def readMembers (value : Input → Read Json) :
    Nat → Bool → List (String × Json) → Input → Except Fault (List (String × Json) × Input)
  | 0, _, _, _ => fault .expectedValue 0
  | bound + 1, first, done, input => do
    match ← under .unknown (nextMember first input) with
    | none => return (done, ← closeObject input)
    | some rest =>
      let (name, rest) ← under .unknown (readString rest)
      let rest ← readColon rest
      let (x, rest) ← under (.member name) (value rest)
      readMembers value bound false (insert name x done) rest

/-- Read a value with at most `depth` containers inside one another. -/
def readValue (bound : Nat) : Nat → Input → Except Fault (Json × Input)
  | depth, input =>
    match skipSpace input with
    | .char '[' :: rest =>
      match depth with
      | 0 => fault .tooDeep (behindNext (.char '[' :: rest))
      | depth + 1 =>
        (readItems (readValue bound depth) bound 0 [] rest).map fun (xs, rest) =>
          (.array xs, rest)
    | .char '{' :: rest =>
      match depth with
      | 0 => fault .tooDeep (behindNext (.char '{' :: rest))
      | depth + 1 =>
        (readMembers (readValue bound depth) bound true [] rest).map fun (ms, rest) =>
          (.object ms, rest)
    | rest => (readAtom rest).map fun (a, rest) => (a.toJson, rest)

/-- How many containers may lie inside one another. -/
def maxDepth : Nat := 127

/-- A bound for every container in the text. -/
def boundOf (input : Input) : Nat := input.length + 1

/-- Read a whole text with a reader that is given a bound and the depth
allowed: nothing but white space may follow. -/
def readAll {α : Type} (read : Nat → Nat → Input → Read α) (input : Input) : Except Fault α := do
  let (x, rest) ← (show Except Fault (α × Input) from read (boundOf input) maxDepth input)
  finish rest
  return x

/-- The value that a text spells. -/
def ofText? (text : String) : Except Fault Json := readAll readValue (Utf8.ofText text)

/-! ## Samples -/

example : ((ofText? "\x7b\"b\":[1, 2],\"a\":null,\"b\":\x7b\x7d\x7d").toOption.map text) =
    some "\x7b\"a\":null,\"b\":\x7b\x7d\x7d" := by decide +kernel

end Json

end EventFeed
