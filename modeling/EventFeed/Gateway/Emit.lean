import EventFeed.Bus.Basic
import EventFeed.Error
import EventFeed.Http.MediaType
import EventFeed.Json.Reader.Record
import EventFeed.Text.Blank

/-!
# EventFeed.Gateway.Emit

Publishing an event by a request.  The body names the namespace and the
event, and holds its data; it is JSON of at most two mebibytes.

The namespace is checked first, then the name, which is trimmed and must
not be empty, then the data, which must not be `null`.  What is wrong with
the body itself shows as plain text, and what is wrong with its content as
an error of the feed.
-/

namespace EventFeed

/-! ## The request -/

/-- A request to publish an event. -/
structure EmitRequest where
  path : String
  event : String
  data : Json
deriving Repr, Inhabited

namespace EmitRequest

/-- A request of which some fields have been read. -/
structure Draft where
  path : Option String
  event : Option String
  data : Option Json
deriving Repr, Inhabited

/-- A request of which nothing has been read. -/
def Draft.empty : Draft := ⟨none, none, none⟩

/-- The fields of a request, in the order they are declared. -/
def shape : Json.Record Draft where
  name := "EmitRequest"
  fields := [
    { name := "namespace"
      filled := fun d => d.path.isSome
      read := fun _ _ input d => do
        let (s, rest) ← Json.readText input
        return ({ d with path := some s }, rest)
      default? := fun _ => none },
    { name := "event"
      filled := fun d => d.event.isSome
      read := fun _ _ input d => do
        let (s, rest) ← Json.readText input
        return ({ d with event := some s }, rest)
      default? := fun _ => none },
    { name := "data"
      filled := fun d => d.data.isSome
      read := fun bound depth input d => do
        let (j, rest) ← Json.readValue bound depth input
        return ({ d with data := some j }, rest)
      default? := fun d => some { d with data := some .null } }]

/-- The request of a draft that is complete. -/
def Draft.finish? : Draft → Option EmitRequest
  | ⟨some path, some event, some data⟩ => some ⟨path, event, data⟩
  | _ => none

/-- Read a request.  A record that was read is complete, so the last
alternative is never taken. -/
def read (bound depth : Nat) (input : Input) : Except Json.Fault (EmitRequest × Input) := do
  let (draft, rest) ← shape.read Draft.empty bound depth input
  match draft.finish? with
  | some r => return (r, rest)
  | none => Json.fault (.missingField "") (Utf8.width rest)

/-- The request that the bytes spell. -/
def ofBytes (body : List UInt8) : Except Json.Fault EmitRequest :=
  Json.readAll read (Utf8.symbols body)

/-- The event that is published now, if nothing is wrong with it. -/
def event? (now : Timestamp) (r : EmitRequest) : Except FeedError Event := do
  let channel ← Namespace.parse r.path
  let name := trimText r.event
  if name = "" then .error (.invalidRequest "event name must not be empty")
  if r.data.isNull then .error (.invalidRequest "data must be present and not null")
  return Event.publishedAt now channel name r.data

end EmitRequest

/-! ## The answer -/

/-- The answer that an error of the feed gets. -/
def FeedError.response (e : FeedError) : Http.Response := .json e.status e.body

namespace Gateway

/-- The longest body that is read. -/
def maxBody : Nat := 2097152

/-- The answer to a body that cannot be read. -/
def unreadable (body : List UInt8) (f : Json.Fault) : Http.Response :=
  match f.cause.category with
  | .unsuitable =>
    .plain 422 ("Failed to deserialize the JSON body into the target type: " ++ f.message body)
  | .malformed | .truncated =>
    .plain 400 ("Failed to parse the request body as JSON: " ++ f.message body)

/-- The request to publish that a request carries. -/
def emitRequest (r : Http.Request) : Except Http.Response EmitRequest :=
  if !r.hasJson then
    .error (.plain 415 "Expected request with `Content-Type: application/json`")
  else if maxBody < r.body.length then
    .error (.plain 413 "Failed to buffer the request body: length limit exceeded")
  else (EmitRequest.ofBytes r.body).mapError (unreadable r.body)

/-- Publish what the request asks for. -/
def emit (now : Timestamp) (b : Bus) (r : Http.Request) : Bus × Http.Response :=
  match emitRequest r with
  | .error response => (b, response)
  | .ok request =>
    match request.event? now with
    | .error e => (b, e.response)
    | .ok e =>
      let (b, delivered) := b.publish e
      (b, .json 202 (Json.record [("delivered", .ofNat delivered)]))

end Gateway

end EventFeed
