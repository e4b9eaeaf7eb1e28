import EventFeed.Envelope.Basic
import EventFeed.Time.Reader

/-!
# EventFeed.Envelope.Reader

Reading envelopes, and the event data in them.  An envelope must have a
kind and a timestamp; its identifier is empty, its payload `null` and its
event absent unless they are given.

The kind is written as a string, or as an object whose only member has the
name of the kind and the value `null`.
-/

namespace EventFeed

namespace Envelope

open Utf8 (width)
open Json (Fault fault skipSpace behindNext)

/-! ## The kind -/

/-- The name of a kind. -/
def readKindName (input : Input) : Except Fault (Kind × Input) := do
  let (name, rest) ←
    match skipSpace input with
    | .char '"' :: rest => Json.readString rest
    | [] => fault (.ended .value) 0
    | rest => Json.refuse "variant identifier" rest
  match Kind.ofName? name with
  | some k => return (k, rest)
  | none => fault (.unknownVariant name (Kind.all.map Kind.name)) (width rest)

/-- The value `null`. -/
def readUnit (input : Input) : Except Fault Input :=
  match skipSpace input with
  | .char 'n' :: rest => Json.readWord ['u', 'l', 'l'] rest
  | [] => fault (.ended .value) 0
  | rest => Json.refuse "unit" rest

/-- The brace that closes the object of a kind. -/
def closeKind (input : Input) : Except Fault Input :=
  match skipSpace input with
  | .char '}' :: rest => .ok rest
  | [] => fault (.ended .object) 0
  | rest => fault .expectedValue (width rest)

/-- The kind of an envelope. -/
def readKind (depth : Nat) (input : Input) : Except Fault (Kind × Input) :=
  match skipSpace input with
  | [] => fault (.ended .value) 0
  | .char '"' :: rest => readKindName (.char '"' :: rest)
  | .char '{' :: rest =>
    match depth with
    | 0 => fault .tooDeep (behindNext (.char '{' :: rest))
    | _ + 1 =>
      match skipSpace rest with
      | .char '"' :: rest => do
        let (k, rest) ← readKindName (.char '"' :: rest)
        let rest ← Json.readColon rest
        let rest ← readUnit rest
        return (k, ← closeKind rest)
      | [] => fault (.ended .value) 0
      | rest => fault .keyNotString (behindNext rest)
  | rest => fault .expectedValue (behindNext rest)

/-! ## The timestamp -/

/-- A moment. -/
def readTimestamp (input : Input) : Except Fault (Timestamp × Input) := do
  let (s, rest) ←
    match skipSpace input with
    | .char '"' :: rest => Json.readString rest
    | [] => fault (.ended .value) 0
    | rest => Json.refuse "an RFC 3339 formatted date and time string" rest
  match Timestamp.ofText? s with
  | some t => return (t, rest)
  | none => fault (.invalidValue "input contains invalid characters") (width rest)

/-! ## The envelope -/

/-- An envelope of which some fields have been read. -/
structure Draft where
  id : Option String
  kind : Option Kind
  event : Option (Option String)
  timestamp : Option Timestamp
  payload : Option Json
deriving Repr, Inhabited

/-- An envelope of which nothing has been read. -/
def Draft.empty : Draft := ⟨none, none, none, none, none⟩

/-- The fields of an envelope, in the order they are declared. -/
def shape : Json.Record Draft where
  name := "Envelope"
  fields := [
    { name := "id"
      filled := fun d => d.id.isSome
      read := fun _ _ input d => do
        let (s, rest) ← Json.readText input
        return ({ d with id := some s }, rest)
      default? := fun d => some { d with id := some "" } },
    { name := "type"
      filled := fun d => d.kind.isSome
      read := fun _ depth input d => do
        let (k, rest) ← readKind depth input
        return ({ d with kind := some k }, rest)
      default? := fun _ => none },
    { name := "event"
      filled := fun d => d.event.isSome
      read := fun _ _ input d => do
        let (s, rest) ← Json.readOptionalText input
        return ({ d with event := some s }, rest)
      default? := fun d => some { d with event := some none } },
    { name := "timestamp"
      filled := fun d => d.timestamp.isSome
      read := fun _ _ input d => do
        let (t, rest) ← readTimestamp input
        return ({ d with timestamp := some t }, rest)
      default? := fun _ => none },
    { name := "payload"
      filled := fun d => d.payload.isSome
      read := fun bound depth input d => do
        let (j, rest) ← Json.readValue bound depth input
        return ({ d with payload := some j }, rest)
      default? := fun d => some { d with payload := some .null } }]

/-- The envelope of a draft that is complete. -/
def Draft.finish? : Draft → Option Envelope
  | ⟨some id, some kind, some event, some timestamp, some payload⟩ =>
    some ⟨id, kind, event, timestamp, payload⟩
  | _ => none

/-- Read an envelope.  A record that was read is complete, so the last
alternative is never taken. -/
def read (bound depth : Nat) (input : Input) : Except Fault (Envelope × Input) := do
  let (draft, rest) ← shape.read Draft.empty bound depth input
  match draft.finish? with
  | some m => return (m, rest)
  | none => fault (.missingField "") (width rest)

/-- The envelope that a text spells. -/
def ofText (s : String) : Except Fault Envelope := Json.readAll read (Utf8.ofText s)

/-! ## Event data -/

/-- Data as listeners show it: a string as it is, any other value as JSON
text. -/
def dataText : Json → String
  | .string s => s
  | j => j.text

/-- The data of the event `name`, if the envelope carries it. -/
def dataOf? (name : String) (m : Envelope) : Option String :=
  if m.kind = .event ∧ m.event = some name then (m.payload.get? "data").map dataText
  else none

/-- The data of the event `name` in a text; nothing if the text is no
envelope, or one of something else. -/
def decodeEvent (text name : String) : Option String :=
  match ofText text with
  | .ok m => m.dataOf? name
  | .error _ => none

end Envelope

end EventFeed
