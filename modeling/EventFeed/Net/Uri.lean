import EventFeed.Net.Ip

/-!
# EventFeed.Net.Uri

Absolute URIs, as far as a connector has to read them.

* The scheme ends at `://`.
* The authority runs up to the first slash, question mark or number sign.
  What stands before its last `@` is user information, then comes the host,
  and the port behind a colon.  A host in brackets may have colons itself.
* The rest is the path, the query behind `?` and the fragment behind `#`.
-/

namespace EventFeed

/-- An absolute URI. -/
structure Uri where
  scheme : List Char
  userInfo : Option (List Char)
  /-- The host, within its brackets if it has them. -/
  host : List Char
  port : Option Nat
  path : List Char
  query : Option (List Char)
  fragment : Option (List Char)
deriving Repr, DecidableEq, Inhabited

/-- Why a text is no absolute URI. -/
inductive UriError where
  | badCharacter
  | badAuthority
  | badFormat
  | schemeTooLong
  | tooLong
deriving Repr, DecidableEq

/-- The error in words. -/
def UriError.message : UriError → String
  | .badCharacter => "invalid uri character"
  | .badAuthority => "invalid authority"
  | .badFormat => "invalid format"
  | .schemeTooLong => "scheme too long"
  | .tooLong => "uri too long"

namespace Uri

/-! ## Characters -/

/-- The characters of a scheme. -/
def isSchemeChar (c : Char) : Bool := c.isAlphanum || "+-.~!$&'()*,;=_@".toList.contains c

/-- The characters of an authority; a percent sign is for user information
and brackets only. -/
def isAuthorityChar (c : Char) : Bool :=
  c.isAlphanum || "!$&'()*+,-.:;=@[]_~%".toList.contains c

/-- The characters of a path. -/
def isPathChar (c : Char) : Bool :=
  c.isAlphanum || 0x80 ≤ c.toNat || "!\"$%&'()*+,-./:;=@[\\]^_|~\x7b\x7d".toList.contains c

/-- The characters of a query. -/
def isQueryChar (c : Char) : Bool :=
  c.isAlphanum || 0x80 ≤ c.toNat || "!$%&'()*+,-./:;=?@[\\]^_`|~\x7b\x7d".toList.contains c

/-- The characters that end an authority. -/
def endsAuthority (c : Char) : Bool := c == '/' || c == '?' || c == '#'

/-! ## Parts -/

/-- The scheme, and what follows behind `://`. -/
def splitScheme? (s : List Char) : Option (List Char × List Char) :=
  let scheme := s.takeWhile isSchemeChar
  match s.drop scheme.length with
  | ':' :: '/' :: '/' :: rest => some (scheme, rest)
  | _ => none

/-- User information and the rest of an authority. -/
def splitUserInfo (s : List Char) : Option (List Char) × List Char :=
  let rest := (s.reverse.takeWhile (· != '@')).reverse
  if rest.length = s.length then (none, s)
  else (some (s.take (s.length - rest.length - 1)), rest)

/-- The host and what follows it.  A host in brackets ends at the closing
one, any other host at the first colon. -/
def splitHost (s : List Char) : List Char × List Char :=
  match s with
  | '[' :: _ =>
    let inner := s.takeWhile (· != ']')
    (s.take (inner.length + 1), s.drop (inner.length + 1))
  | _ => (s.takeWhile (· != ':'), s.dropWhile (· != ':'))

/-- The port, if there is one. -/
def portOf? : List Char → Option Nat
  | ':' :: digits =>
    if digits ≠ [] ∧ digits.all Char.isDigit ∧ Nat.ofDigitChars 10 digits 0 ≤ 65535 then
      some (Nat.ofDigitChars 10 digits 0)
    else none
  | _ => none

/-- Are host and port well formed?  Brackets come in one pair, colons
outside of them once at most, and percent signs only inside. -/
def isHostPort (s : List Char) : Bool :=
  let (host, rest) := splitHost s
  let plain := fun t : List Char => !t.any fun c => c == '[' || c == ']' || c == '%'
  s != [] && (rest.count ':' ≤ 1) && plain rest &&
    match host with
    | '[' :: inner => inner.getLast? == some ']' && plain (inner.dropLast.filter (· != '%'))
    | _ => plain host

/-- A text before the first `c` in it, and the text behind that, if there
is one. -/
def splitAt? (c : Char) (s : List Char) : List Char × Option (List Char) :=
  match s.dropWhile (· != c) with
  | _ :: rest => (s.takeWhile (· != c), some rest)
  | [] => (s, none)

/-- The URI that a text spells. -/
def ofText? (s : List Char) : Except UriError Uri := do
  if 65534 < (String.ofList s).utf8ByteSize then .error .tooLong
  let some (scheme, rest) := splitScheme? s | .error .badFormat
  if 64 < scheme.length then .error .schemeTooLong
  let authority := rest.takeWhile fun c => !endsAuthority c
  if !authority.all isAuthorityChar then .error .badCharacter
  let (userInfo, hostPort) := splitUserInfo authority
  if authority = [] then .error .badFormat
  if !isHostPort hostPort then .error .badAuthority
  let (host, portText) := splitHost hostPort
  let (rest, fragment) := splitAt? '#' (rest.drop authority.length)
  let (path, query) := splitAt? '?' rest
  if !path.all isPathChar || !(query.getD []).all isQueryChar then .error .badCharacter
  return ⟨scheme, userInfo, host, portOf? portText, if path = [] then ['/'] else path, query,
    fragment⟩

/-- The host without its brackets: the address or name to connect to. -/
def address (u : Uri) : List Char :=
  match u.host with
  | '[' :: rest => if rest.getLast? = some ']' then rest.dropLast else u.host
  | h => h

example : (ofText? "ws://[::1]:80/test".toList).toOption.map (fun u => (u.address, u.port)) =
    some ("::1".toList, some 80) := by decide +kernel

end Uri

end EventFeed
