import EventFeed.Json.Reader.Skip

/-!
# EventFeed.Json.Reader.Record

Records with named fields.  A record is written as an object, its members
in any order, or as a list of the fields in the order they are declared.

* In an object, members of other names are passed over, a field may occur
  once, and at the end every field must be there or have a default.
* In a list, the fields at the end may be left out if they have defaults.

The record under construction is a value of a type `σ` that the caller
chooses; a `Field` says how one field of it is read and filled in.
-/

namespace EventFeed

namespace Json

open Utf8 (width)

/-- One field of a record that is built up in a value of type `σ`. -/
structure Field (σ : Type) where
  /-- The name of its member. -/
  name : String
  /-- Has the field been read? -/
  filled : σ → Bool
  /-- Read the field and fill it in, given a bound and the depth allowed. -/
  read : Nat → Nat → Input → σ → Except Fault (σ × Input)
  /-- Fill in the default, if the field has one. -/
  default? : σ → Option σ

/-- A record: the name messages call it by, and its fields in the order
they are declared. -/
structure Record (σ : Type) where
  name : String
  fields : List (Field σ)

namespace Record

variable {σ : Type}

/-- What messages say is wanted in the place of something else. -/
def wanted (r : Record σ) : String := "struct " ++ r.name

/-- What messages say is wanted in the place of a list that is too
short. -/
def wantedLength (r : Record σ) : String :=
  r.wanted ++ " with " ++ String.ofList (Nat.toDigits 10 r.fields.length) ++
    (if r.fields.length = 1 then " element" else " elements")

/-- Fill the fields that were not read with their defaults; the name of
the first one that has none otherwise. -/
def complete : List (Field σ) → σ → Except String σ
  | [], s => .ok s
  | f :: fs, s =>
    if f.filled s then complete fs s
    else
      match f.default? s with
      | some s => complete fs s
      | none => .error f.name

/-- The text behind the name of a member that should not be there: a
closing brace next to it is passed over as well. -/
def behindName (input : Input) : Nat :=
  match skipSpace input with
  | .char '}' :: rest => width rest
  | rest => width rest

/-- Read the value of the member `name` behind its name. -/
def readField (r : Record σ) (bound depth : Nat) (name : String) (s : σ) (input : Input) :
    Except Fault (σ × Input) :=
  match r.fields.find? (·.name == name) with
  | none => do
    let rest ← readColon input
    return (s, ← under (.member name) (skipValue bound rest))
  | some f =>
    if f.filled s then fault (.duplicateField name) (behindName input)
    else do
      let rest ← readColon input
      under (.member name) (f.read bound depth rest s)

/-- Read the members of a record, and the closing brace; `fuel` bounds how
many there are. -/
def readFields (r : Record σ) (bound depth : Nat) :
    Nat → Bool → σ → Input → Except Fault (σ × Input)
  | 0, _, _, _ => fault .expectedValue 0
  | fuel + 1, first, s, input => do
    match ← under .unknown (nextMember first input) with
    | none =>
      let rest ← closeObject input
      match complete r.fields s with
      | .ok s => return (s, rest)
      | .error name => fault (.missingField name) (width rest)
    | some rest =>
      let (name, rest) ← under .unknown (readString rest)
      let (s, rest) ← r.readField bound depth name s rest
      r.readFields bound depth fuel false s rest

/-- Read the fields from a list, the next item being the `index`th, and
the closing bracket. -/
def readInOrder (r : Record σ) (bound depth : Nat) :
    List (Field σ) → Nat → σ → Input → Except Fault (σ × Input)
  | [], _, s, input => do return (s, ← closeList input)
  | f :: fs, index, s, input => do
    match ← nextItem (index == 0) input with
    | some rest =>
      let (s, rest) ← under (.item index) (f.read bound depth rest s)
      r.readInOrder bound depth fs (index + 1) s rest
    | none =>
      match f.default? s with
      | some s => r.readInOrder bound depth fs (index + 1) s input
      | none =>
        let rest ← closeList input
        fault (.invalidLength index r.wantedLength) (width rest)

/-- Read a record, starting from the empty one. -/
def read (r : Record σ) (empty : σ) (bound depth : Nat) (input : Input) :
    Except Fault (σ × Input) :=
  match skipSpace input with
  | [] => fault (.ended .value) 0
  | .char '[' :: rest =>
    match depth with
    | 0 => fault .tooDeep (behindNext (.char '[' :: rest))
    | depth + 1 => r.readInOrder bound depth r.fields 0 empty rest
  | .char '{' :: rest =>
    match depth with
    | 0 => fault .tooDeep (behindNext (.char '{' :: rest))
    | depth + 1 => r.readFields bound depth bound true empty rest
  | rest => refuse r.wanted rest

end Record

/-! ## Fields -/

/-- Read text. -/
def readText (input : Input) : Except Fault (String × Input) :=
  match skipSpace input with
  | [] => fault (.ended .value) 0
  | .char '"' :: rest => readString rest
  | rest => refuse "a string" rest

/-- Read text, or `null` for its absence. -/
def readOptionalText (input : Input) : Except Fault (Option String × Input) :=
  match skipSpace input with
  | .char 'n' :: rest => (readWord ['u', 'l', 'l'] rest).map (none, ·)
  | rest => (readText rest).map fun (s, rest) => (some s, rest)

end Json

end EventFeed
