import EventFeed.Http.Basic

/-!
# EventFeed.Http.MediaType

Media types such as `application/json; charset=utf-8`.  A type and a
subtype are tokens; what follows the last plus sign of the subtype is its
suffix.  Parameters follow behind a semicolon, and must be well formed
although nobody looks at them.
-/

namespace EventFeed

namespace Http

/-- The characters of a token. -/
def isTokenChar (c : Char) : Bool := c.isAlphanum || "!#$%&'*+-.^_|~`".toList.contains c

/-- The characters of a quoted value. -/
def isVisible (c : Char) : Bool := ' ' ≤ c && c ≤ '~'

/-- A media type without its parameters, in small letters. -/
structure MediaType where
  type : List Char
  subtype : List Char
  suffix : Option (List Char)
deriving Repr, DecidableEq, Inhabited

namespace MediaType

/-! ## Parameters -/

/-- What comes next in the parameters. -/
inductive Expectation where
  /-- A name, before its first character. -/
  | name
  /-- The rest of a name. -/
  | moreName
  /-- A value, before its first character. -/
  | value
  /-- The rest of a value. -/
  | moreValue
  /-- A quoted value, before its first character. -/
  | quotedValue
  /-- The rest of a quoted value. -/
  | moreQuoted
  /-- The end of a parameter whose value was quoted. -/
  | separator
deriving Repr, DecidableEq

/-- Are the parameters well formed? -/
def areParameters : Expectation → List Char → Bool
  | .name, [] => true
  | .name, ' ' :: rest => areParameters .name rest
  | .name, c :: rest => isTokenChar c && areParameters .moreName rest
  | .moreName, [] => false
  | .moreName, '=' :: rest => areParameters .value rest
  | .moreName, c :: rest => isTokenChar c && areParameters .moreName rest
  | .value, [] => true
  | .value, '"' :: rest => areParameters .quotedValue rest
  | .value, c :: rest => isTokenChar c && areParameters .moreValue rest
  | .moreValue, [] => true
  | .moreValue, ';' :: rest => areParameters .name rest
  | .moreValue, c :: rest => isTokenChar c && areParameters .moreValue rest
  | .quotedValue, [] => false
  | .quotedValue, c :: rest => isVisible c && areParameters .moreQuoted rest
  | .moreQuoted, [] => false
  | .moreQuoted, '"' :: rest => areParameters .separator rest
  | .moreQuoted, c :: rest => isVisible c && areParameters .moreQuoted rest
  | .separator, [] => true
  | .separator, ' ' :: rest => areParameters .separator rest
  | .separator, ';' :: rest => areParameters .name rest
  | .separator, _ :: _ => false

/-! ## Types -/

/-- A text before and after its last plus sign, unless the sign is at the
front. -/
def splitSuffix (s : List Char) : List Char × Option (List Char) :=
  let suffix := (s.reverse.takeWhile (· != '+')).reverse
  let front := s.take (s.length - suffix.length - 1)
  if front = [] then (s, none) else (front, some suffix)

/-- The media type that a text spells. -/
def ofText? (s : List Char) : Option MediaType :=
  let type := s.takeWhile isTokenChar
  match s.drop type.length with
  | '/' :: rest =>
    let name := rest.takeWhile isTokenChar
    let (subtype, suffix) := splitSuffix name
    let media : MediaType :=
      ⟨type.map lowerChar, subtype.map lowerChar, suffix.map (·.map lowerChar)⟩
    if type = [] then none
    else
      match rest.drop name.length with
      | [] => some media
      | ';' :: more => if name ≠ [] ∧ areParameters .name more then some media else none
      | _ => none
  | _ => none

/-- Is it JSON, or something that is written in JSON? -/
def isJson (m : MediaType) : Bool :=
  m.type == "application".toList &&
    (m.subtype == "json".toList || m.suffix == some "json".toList)

end MediaType

/-- Does the request say that its body is JSON? -/
def Request.hasJson (r : Request) : Bool :=
  match r.headerText? "content-type" with
  | some s =>
    match MediaType.ofText? s.toList with
    | some m => m.isJson
    | none => false
  | none => false

example : (MediaType.ofText? "application/vnd.api+json;v=1".toList).map (·.isJson) = some true := by
  decide +kernel

example : MediaType.ofText? "application/json ; v=1".toList = none := by decide +kernel

end Http

end EventFeed
