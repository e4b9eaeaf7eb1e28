import EventFeed.Environment.Basic
import EventFeed.Text.Alphanumeric
import EventFeed.Text.Blank
import EventFeed.Text.Quoted

/-!
# EventFeed.Environment.Dotenv

Files named `.env`, which set variables that the environment does not have.

A file is a row of lines `NAME=value`.  A quotation may run over several
lines.  Comments start with `#` at the beginning of a line or behind a
blank.  In a value,

* single quotes keep everything as it is;
* a backslash stands before a quote, a dollar sign, a blank or a backslash
  that is meant as itself, and `\n` is a line feed;
* `$NAME` and `${NAME}` stand for the value of a variable.

A variable that can be read as text is never changed, so of several
assignments of one name the first one counts.  Reading stops at the first
line that is not well formed; the assignments before it stay.
-/

namespace EventFeed

namespace Dotenv

/-! ## Lines -/

/-- Where a line stands with its quotes at some character. -/
inductive LineState where
  /-- Nothing is open. -/
  | complete
  /-- Nothing is open, and the last character was a blank. -/
  | blank
  /-- The next character is escaped. -/
  | escape
  | strong
  | strongEscape
  | weak
  | weakEscape
deriving Repr, DecidableEq

/-- Outside of quotes. -/
def LineState.afterPlain (c : Char) : LineState :=
  if isBlank c && c != '\n' && c != '\r' then .blank
  else if c = '\\' then .escape
  else if c = '"' then .weak
  else if c = '\'' then .strong
  else .complete

/-- The state after a character; none if a comment starts there. -/
def LineState.next? : LineState → Char → Option LineState
  | .complete, c => some (.afterPlain c)
  | .blank, '#' => none
  | .blank, '\\' => some .escape
  | .blank, '"' => some .weak
  | .blank, '\'' => some .strong
  | .blank, _ => some .complete
  | .escape, _ => some .complete
  | .strong, '\\' => some .strongEscape
  | .strong, '\'' => some .complete
  | .strong, _ => some .strong
  | .strongEscape, _ => some .strong
  | .weak, '\\' => some .weakEscape
  | .weak, '"' => some .complete
  | .weak, _ => some .weak
  | .weakEscape, _ => some .weak

/-- The characters before a comment, and the state behind the last one;
none if there is a comment. -/
def scan : LineState → List Char → List Char × Option LineState
  | s, [] => ([], some s)
  | s, c :: rest =>
    match s.next? c with
    | none => ([], none)
    | some s =>
      let (kept, final) := scan s rest
      (c :: kept, final)

/-- The lines of a file, each with its line feed. -/
def physicalLines : List UInt8 → List (List UInt8)
  | [] => []
  | b :: rest =>
    if b = 0x0A then [b] :: physicalLines rest
    else
      match physicalLines rest with
      | [] => [[b]]
      | line :: lines => (b :: line) :: lines

/-- The line without the line feed at its end, and a carriage return before
that. -/
def withoutLineEnd (s : List Char) : List Char :=
  match s.reverse with
  | '\n' :: '\r' :: rest => rest.reverse
  | '\n' :: rest => rest.reverse
  | _ => s

/-- The lines as they are read: a line whose quotes are open goes on with
the next one.  `open_` holds what was read of such a line.  A line that is
damaged, or open at the end of the file, is the end. -/
def logicalLines : List (List UInt8) → (open_ : List Char) → LineState → List (List Char)
  | [], _, _ => []
  | bytes :: lines, open_, state =>
    match Utf8.chars? (Utf8.symbols bytes) with
    | none => []
    | some more =>
      if (trimStart (open_ ++ more)).head? = some '#' then [] :: logicalLines lines [] .complete
      else
        match scan state more with
        | (kept, none) => (open_ ++ kept) :: logicalLines lines [] .complete
        | (_, some .complete) =>
          withoutLineEnd (open_ ++ more) :: logicalLines lines [] .complete
        | (_, some state) => logicalLines lines (open_ ++ more) state

/-- The lines of a file, which may start with a byte order mark. -/
def linesOf (file : List UInt8) : List (List Char) :=
  let text := match file with
    | 0xEF :: 0xBB :: 0xBF :: rest => rest
    | file => file
  logicalLines (physicalLines text) [] .complete

/-! ## Values -/

/-- Where a value stands at some character. -/
inductive ValueState where
  | plain
  | weak
  | strong
  /-- Behind a backslash, in double quotes or not. -/
  | escaped (weak : Bool)
  /-- In a name behind a dollar sign; its characters, the last one first. -/
  | name (weak : Bool) (name : List Char)
  /-- In a name in braces. -/
  | braced (weak : Bool) (name : List Char)
  /-- Behind the value. -/
  | over
deriving Repr, DecidableEq

/-- In double quotes or outside of them. -/
def ValueState.outer (weak : Bool) : ValueState := if weak then .weak else .plain

/-- The character that a backslash and `c` stand for. -/
def unescape? (c : Char) : Option Char :=
  if c = 'n' then some '\n'
  else if c = '\\' ∨ c = '\'' ∨ c = '"' ∨ c = '$' ∨ c = ' ' then some c
  else none

/-- Read a value.  `look` gives the value of a variable, and `done` holds
what was read, the last character first. -/
def readValue (look : String → String) : ValueState → (done : List Char) → List Char →
    Option (List Char)
  | .plain, done, [] | .over, done, [] | .escaped false, done, [] => some done.reverse
  | .name false n, done, [] => some (done.reverse ++ (look (String.ofList n.reverse)).toList)
  | _, _, [] => none
  | .plain, done, c :: rest =>
    if c = '$' then readValue look (.name false []) done rest
    else if c = '\'' then readValue look .strong done rest
    else if c = '"' then readValue look .weak done rest
    else if c = '\\' then readValue look (.escaped false) done rest
    else if c = ' ' ∨ c = '\t' then readValue look .over done rest
    else readValue look .plain (c :: done) rest
  | .weak, done, c :: rest =>
    if c = '$' then readValue look (.name true []) done rest
    else if c = '"' then readValue look .plain done rest
    else if c = '\\' then readValue look (.escaped true) done rest
    else readValue look .weak (c :: done) rest
  | .strong, done, c :: rest =>
    if c = '\'' then readValue look .plain done rest
    else readValue look .strong (c :: done) rest
  | .escaped weak, done, c :: rest =>
    match unescape? c with
    | some x => readValue look (.outer weak) (x :: done) rest
    | none => none
  | .name weak n, done, c :: rest =>
    let value := (look (String.ofList n.reverse)).toList.reverse
    if isAlphanumeric c then readValue look (.name weak (c :: n)) done rest
    else if c = '\x7b' ∧ n = [] then readValue look (.braced weak []) done rest
    else if c = '$' then readValue look (.name weak []) (value ++ done) rest
    else readValue look (.outer weak) (c :: (value ++ done)) rest
  | .braced weak n, done, c :: rest =>
    if c = '\x7d' then
      readValue look (.outer weak) ((look (String.ofList n.reverse)).toList.reverse ++ done) rest
    else readValue look (.braced weak (c :: n)) done rest
  | .over, done, c :: rest =>
    if c = ' ' ∨ c = '\t' then readValue look .over done rest
    else if c = '#' then some done.reverse
    else none

/-! ## Assignments -/

/-- What a line says. -/
inductive Line where
  | nothing
  | assignment (name : String) (value : String)
  | malformed
deriving Repr, DecidableEq

/-- Can a name start with the character? -/
def isNameStart (c : Char) : Bool := c.isAlpha || c == '_'

/-- Can the character stand in a name? -/
def isNameChar (c : Char) : Bool := c.isAlphanum || c == '_' || c == '.'

/-- Read a name, and the blanks behind it. -/
def readName? (s : List Char) : Option (String × List Char) :=
  if s.head?.any isNameStart then
    some (String.ofList (s.takeWhile isNameChar), trimStart (s.dropWhile isNameChar))
  else none

/-- Read the name of an assignment, and the equality sign.  The word
`export` may stand before the name. -/
def readTarget? (s : List Char) : Option (String × List Char) := do
  let (name, rest) ← readName? s
  match rest with
  | '=' :: rest => return (name, rest)
  | rest =>
    if name = "export" then
      match ← readName? rest with
      | (name, '=' :: rest) => return (name, rest)
      | _ => none
    else none

/-- Read a line.  `look` gives the value of a variable. -/
def readLine (look : String → String) (line : List Char) : Line :=
  let s := trimStart (trimEnd line)
  if s = [] ∨ s.head? = some '#' then .nothing
  else
    match readTarget? s with
    | none => .malformed
    | some (name, rest) =>
      let rest := trimStart rest
      if rest = [] ∨ rest.head? = some '#' then .assignment name ""
      else
        match readValue look .plain [] rest with
        | some value => .assignment name (String.ofList value)
        | none => .malformed

end Dotenv

/-! ## Loading -/

/-- Why an environment cannot be changed: no variable can hold a zero. -/
structure ZeroInValue where
  name : String
  value : String
deriving Repr, DecidableEq

/-- The failure in words. -/
def ZeroInValue.message (e : ZeroInValue) : String :=
  "failed to set environment variable `" ++ quotedStrictly e.name ++ "` to `" ++
    quotedStrictly e.value ++ "`: file name contained an unexpected NUL byte"

namespace Environment

/-- Apply the lines of a file, one after the other. -/
def applyLines (e : Environment) : List (List Char) → Except ZeroInValue Environment
  | [] => .ok e
  | line :: lines =>
    match Dotenv.readLine (fun name => (e.lookUp? name).getD "") line with
    | .malformed => .ok e
    | .nothing => e.applyLines lines
    | .assignment name value =>
      if (e.text? name).isSome then e.applyLines lines
      else if '\x00' ∈ value.toList then .error ⟨name, value⟩
      else (e.set name (Utf8.encode value)).applyLines lines

/-- The environment after the file, if there is one, has been loaded. -/
def load (e : Environment) (file : Option (List UInt8)) : Except ZeroInValue Environment :=
  match file with
  | some bytes => e.applyLines (Dotenv.linesOf bytes)
  | none => .ok e

/-- Without a file nothing changes. -/
@[simp] theorem load_none (e : Environment) : e.load none = .ok e := rfl

end Environment

end EventFeed
