import EventFeed.Net.Uri
import EventFeed.Text.Utf8

/-!
# EventFeed.Http.Basic

Requests and responses.  Header names are compared without regard to case;
of several headers of one name the first one counts.  The value of a header
is a string of bytes, and so is the body of a request.
-/

namespace EventFeed

namespace Http

/-! ## Case -/

/-- A capital ASCII letter becomes small; nothing else changes. -/
def lowerChar (c : Char) : Char :=
  if 'A' ≤ c ∧ c ≤ 'Z' then Char.ofNat (c.toNat + 32) else c

/-- The text with small ASCII letters. -/
def lower (s : String) : String := String.ofList (s.toList.map lowerChar)

/-- Does the text `t` occur in another one? -/
def occursIn (t : List Char) : List Char → Bool
  | [] => t.isEmpty
  | c :: rest => t.isPrefixOf (c :: rest) || occursIn t rest

/-! ## Requests -/

/-- A request. -/
structure Request where
  method : String
  /-- Path and query, as they were sent. -/
  target : String
  headers : List (String × List UInt8)
  body : List UInt8
deriving Repr, Inhabited

namespace Request

/-- The value of the first header of the name, which is given in small
letters. -/
def header? (r : Request) (name : String) : Option (List UInt8) :=
  (r.headers.find? fun h => lower h.1 == name).map (·.2)

/-- The value of a header as text. -/
def headerText? (r : Request) (name : String) : Option String :=
  (r.header? name).bind Utf8.decode?

/-- Does the header have this value, but for the case of its letters? -/
def headerIs (r : Request) (name value : String) : Bool :=
  match r.headerText? name with
  | some s => lower s == value
  | none => false

/-- Does the value of the header hold this text, but for the case of its
letters? -/
def headerContains (r : Request) (name value : String) : Bool :=
  match r.headerText? name with
  | some s => occursIn value.toList (lower s).toList
  | none => false

/-- The path of the target: what stands before the query.  A target may be
a whole URI. -/
def path (r : Request) : String :=
  match r.target.toList with
  | '/' :: rest => String.ofList ('/' :: rest.takeWhile fun c => c != '?' && c != '#')
  | target =>
    match Uri.ofText? target with
    | .ok u => String.ofList u.path
    | .error _ => ""

end Request

/-! ## Responses -/

/-- A response.  The names of headers are in small letters. -/
structure Response where
  status : Nat
  headers : List (String × String)
  body : String
deriving Repr, DecidableEq, Inhabited

namespace Response

/-- A response without a body. -/
def empty (status : Nat) : Response := ⟨status, [], ""⟩

/-- A response of plain text. -/
def plain (status : Nat) (text : String) : Response :=
  ⟨status, [("content-type", "text/plain; charset=utf-8")], text⟩

/-- A response of JSON text. -/
def json (status : Nat) (text : String) : Response :=
  ⟨status, [("content-type", "application/json")], text⟩

/-- The response with more headers. -/
def withHeaders (r : Response) (headers : List (String × String)) : Response :=
  { r with headers := r.headers ++ headers }

/-- The response with its body left out. -/
def withoutBody (r : Response) : Response := { r with body := "" }

end Response

end Http

end EventFeed
