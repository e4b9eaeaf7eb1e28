import EventFeed.Gateway.Connection
import EventFeed.Proofs.Envelope.Content
import EventFeed.Proofs.Gateway.Content
import EventFeed.Proofs.Text.Utf8

/-!
# EventFeed.Proofs.Feed.Presentation

What is said does not depend on how it is written.  A text is read as what its
tree stands for, and a tree may be restated.  So listeners get the same data out
of two texts of one content, a gateway answers them in the same way, and it
publishes the same for two bodies of one content, or refuses both
(`presentation`).

How it refuses a body that cannot be read does depend on presentation: the reader
stops at the first thing it cannot read, and the answer tells what that is and
where it stands (`unreadable_bodies_answered_by_order`).
-/

namespace EventFeed

open Json

/-! ## Envelopes -/

namespace Envelope

variable {w w' : Written} {s s' : String}

/-- Texts of one content are read alike. -/
theorem toOption_ofText_restated (hsame : Restated forms w w') (h : Spaced w.tokens (Utf8.ofText s))
    (h' : Spaced w'.tokens (Utf8.ofText s')) : (ofText s).toOption = (ofText s').toOption := by
  rw [toOption_ofText h, toOption_ofText h', onContent.restated hsame]

theorem decodeEvent_eq (s name : String) :
    decodeEvent s name = (ofText s).toOption.bind (dataOf? name) := by
  rw [decodeEvent]
  cases ofText s <;> rfl

/-- They give the same data to listeners. -/
theorem decodeEvent_restated (hsame : Restated forms w w') (h : Spaced w.tokens (Utf8.ofText s))
    (h' : Spaced w'.tokens (Utf8.ofText s')) (name : String) :
    decodeEvent s name = decodeEvent s' name := by
  rw [decodeEvent_eq, decodeEvent_eq, toOption_ofText_restated hsame h h']

end Envelope

namespace Gateway

/-! ## Replies -/

/-- What a gateway replies depends only on what it reads. -/
theorem replyTo_eq (now : Timestamp) (s : String) :
    replyTo now s =
      ((Envelope.ofText s).toOption.elim (Envelope.refusal now "" 400 "malformed JSON")
        fun m => Envelope.refusal now m.id 405 "namespace is publish-only") := by
  rw [replyTo]
  cases Envelope.ofText s <;> rfl

/-- So it replies alike to texts of one content. -/
theorem replyTo_restated {w w' : Written} {s s' : String} (hsame : Restated Envelope.forms w w')
    (h : Spaced w.tokens (Utf8.ofText s)) (h' : Spaced w'.tokens (Utf8.ofText s'))
    (now : Timestamp) : replyTo now s = replyTo now s' := by
  rw [replyTo_eq, replyTo_eq, Envelope.toOption_ofText_restated hsame h h']

/-! ## Requests -/

/-- Nothing was published, because the JSON of the body could not be read. -/
def Unread (b : Bus) (outcome : Bus × Http.Response) : Prop :=
  outcome.1 = b ∧ (outcome.2.status = 400 ∨ outcome.2.status = 422)

variable {w w' : Written} {r r' : Http.Request}

/-- A request that is read is published, or refused for what it asks. -/
theorem emit_of_read {request : EmitRequest} (hjson : r.hasJson = true)
    (hsize : r.body.length ≤ maxBody) (hread : (EmitRequest.ofBytes r.body).toOption = some request)
    (now : Timestamp) (b : Bus) :
    emit now b r =
      match request.event? now with
      | .error e => (b, e.response)
      | .ok e =>
        ((b.publish e).1, .json 202 (Json.record [("delivered", .ofNat (b.publish e).2)])) := by
  have hrequest : emitRequest r = .ok request := by
    rw [emitRequest, hjson, if_neg (by decide), if_neg (Nat.not_lt.2 hsize)]
    cases hbody : EmitRequest.ofBytes r.body with
    | error f =>
      rw [hbody] at hread
      cases hread
    | ok request' =>
      rw [hbody] at hread
      cases hread
      rfl
  cases hevent : request.event? now <;> simp only [emit, hrequest, hevent]

/-- Without JSON, nothing is read. -/
theorem emit_of_not_json (hjson : r.hasJson = false) (now : Timestamp) (b : Bus) :
    emit now b r =
      (b, .plain 415 "Expected request with `Content-Type: application/json`") := by
  rw [emit, emitRequest, hjson]
  rfl

/-- A request that is not read is answered with the reason. -/
theorem emit_of_not_read {response : Http.Response}
    (h : (emitRequest r).map (fun _ => ()) = .error response) (now : Timestamp) (b : Bus) :
    emit now b r = (b, response) := by
  cases hrequest : emitRequest r with
  | ok request =>
    rw [hrequest] at h
    cases h
  | error refusal =>
    rw [hrequest] at h
    cases h
    rw [emit, hrequest]

/-- JSON that cannot be read is refused as such. -/
theorem unread_emit (hjson : r.hasJson = true) (hsize : r.body.length ≤ maxBody)
    (hread : (EmitRequest.ofBytes r.body).toOption = none) (now : Timestamp) (b : Bus) :
    Unread b (emit now b r) := by
  cases hbody : EmitRequest.ofBytes r.body with
  | ok request =>
    rw [hbody] at hread
    cases hread
  | error f =>
    have hrequest : (emitRequest r).map (fun _ => ()) = .error (unreadable r.body f) := by
      rw [emitRequest, hjson, if_neg (by decide), if_neg (Nat.not_lt.2 hsize), hbody]
      rfl
    rw [emit_of_not_read hrequest]
    refine ⟨rfl, ?_⟩
    dsimp only
    rw [unreadable]
    cases f.cause.category <;> simp [Http.Response.plain]

/-- Bodies of one content have one outcome, or neither can be read. -/
theorem emit_restated (hsame : Restated EmitRequest.forms w w')
    (h : Spaced w.tokens (Utf8.symbols r.body)) (h' : Spaced w'.tokens (Utf8.symbols r'.body))
    (hjson : r.hasJson = r'.hasJson) (hsize : r.body.length ≤ maxBody)
    (hsize' : r'.body.length ≤ maxBody) (now : Timestamp) (b : Bus) :
    (r.hasJson = false ∨ EmitRequest.ofTree? w ≠ none → emit now b r = emit now b r') ∧
      (r.hasJson = true → EmitRequest.ofTree? w = none →
        Unread b (emit now b r) ∧ Unread b (emit now b r')) := by
  have hread := EmitRequest.toOption_ofBytes h
  have hread' := EmitRequest.toOption_ofBytes h'
  rw [← EmitRequest.onContent.restated hsame] at hread'
  constructor
  · intro hrequest
    cases hr : r.hasJson with
    | false => rw [emit_of_not_json hr, emit_of_not_json (hjson ▸ hr)]
    | true =>
      have hsome := hrequest.resolve_left (Bool.eq_false_iff.not.2 (not_not.2 hr))
      obtain ⟨request, hsome⟩ := Option.ne_none_iff_exists'.1 hsome
      rw [hsome] at hread hread'
      rw [emit_of_read hr hsize hread, emit_of_read (hjson ▸ hr) hsize' hread']
  · intro hr hnone
    rw [hnone] at hread hread'
    exact ⟨unread_emit hr hsize hread now b, unread_emit (hjson ▸ hr) hsize' hread' now b⟩

end Gateway

/-! ## Presentation -/

/-- **Content decides, not presentation.**  Envelopes and requests are read off
their texts as they are made of the trees, with any white space between the
tokens.  A list of the values of all fields is what they make; restated, it is read
as the same, and an object is refused if a field is given twice, is missing without
a default, or has a value that does not suit it.
So texts of one content give the same data to the same listeners and get the same
reply.  Bodies of one content have one outcome if they can be read, or if the request
does not say that it has JSON; and otherwise nothing is published for either. -/
theorem presentation :
    ((∀ {w : Written} {s : String}, Spaced w.tokens (Utf8.ofText s) →
        (Envelope.ofText s).toOption = Envelope.ofTree? w) ∧
      OnContent Envelope.forms Envelope.ofTree? ∧
      ∀ id kind event timestamp payload : Written,
        Envelope.ofTree? (.array [id, kind, event, timestamp, payload]) =
          id.string?.bind fun id => (Envelope.Kind.ofTree? kind).bind fun kind =>
            event.optionalString?.bind fun event =>
              (Envelope.momentOf? timestamp).bind fun timestamp =>
                (payload.value? fieldDepth).map fun payload =>
                  ⟨id, kind, event, timestamp, payload⟩) ∧
    ((∀ {w : Written} {body : List UInt8}, Spaced w.tokens (Utf8.symbols body) →
        (EmitRequest.ofBytes body).toOption = EmitRequest.ofTree? w) ∧
      OnContent EmitRequest.forms EmitRequest.ofTree? ∧
      ∀ path event data : Written, EmitRequest.ofTree? (.array [path, event, data]) =
        path.string?.bind fun path => event.string?.bind fun event =>
          (data.value? fieldDepth).map fun data => ⟨path, event, data⟩) ∧
    (∀ {w w' : Written} {s s' : String}, Restated Envelope.forms w w' →
      Spaced w.tokens (Utf8.ofText s) → Spaced w'.tokens (Utf8.ofText s') →
        (∀ name, Envelope.decodeEvent s name = Envelope.decodeEvent s' name) ∧
        ∀ now, Gateway.replyTo now s = Gateway.replyTo now s') ∧
    ∀ {w w' : Written} {r r' : Http.Request}, Restated EmitRequest.forms w w' →
      Spaced w.tokens (Utf8.symbols r.body) → Spaced w'.tokens (Utf8.symbols r'.body) →
      r.hasJson = r'.hasJson → r.body.length ≤ Gateway.maxBody →
      r'.body.length ≤ Gateway.maxBody → ∀ (now : Timestamp) (b : Bus),
        (r.hasJson = false ∨ EmitRequest.ofTree? w ≠ none →
          Gateway.emit now b r = Gateway.emit now b r') ∧
        (r.hasJson = true → EmitRequest.ofTree? w = none →
          Gateway.Unread b (Gateway.emit now b r) ∧ Gateway.Unread b (Gateway.emit now b r')) :=
  ⟨⟨Envelope.toOption_ofText, Envelope.onContent, Envelope.ofTree?_array⟩,
    ⟨EmitRequest.toOption_ofBytes, EmitRequest.onContent, EmitRequest.ofTree?_array⟩,
    fun hsame h h' => ⟨Envelope.decodeEvent_restated hsame h h',
      Gateway.replyTo_restated hsame h h'⟩,
    Gateway.emit_restated⟩

/-- A string of characters that need no escapes. -/
def sampleString (s : String) : Written := .string (plainly s)

/-- A member whose name needs none. -/
def sampleMember (name : String) (x : Written) : List Piece × Written := (plainly name, x)

/-- A request with a body of JSON. -/
def sampleRequest (body : String) : Http.Request :=
  ⟨"POST", "/emit", [("content-type", Utf8.encode "application/json")], Utf8.encode body⟩

theorem symbols_sampleRequest (body : String) :
    Utf8.symbols (sampleRequest body).body = Utf8.ofText body := Utf8.symbols_encode body

/-- An object with a member that is no field, and without an identifier, is read
as the list of the values and the identifier's default; and a body that names the
namespace last is read as one that lists it first. -/
theorem presentation_objects_and_lists :
    let object := "\x7b\"type\":\"event\",\"note\":[\x7b\x7d,true],\"timestamp\":" ++
      "\"2024-02-29T23:59:60Z\",\"event\":\"e\",\"payload\":\x7b\"data\":\"x\"\x7d\x7d"
    let list :=
      " [ \"\" , \"event\" , \"e\" , \"2024-02-29T23:59:60Z\" , \x7b \"data\" : \"x\" \x7d ]"
    let body := sampleRequest "\x7b\"data\":\"x\",\"event\":\"e\",\"namespace\":\"n\"\x7d"
    let body' := sampleRequest " [ \"n\" , \"e\" , \"x\" ]"
    (Envelope.ofText object).toOption.isSome ∧
      Envelope.decodeEvent object "e" = Envelope.decodeEvent list "e" ∧
      Envelope.decodeEvent list "e" = some "x" ∧
      ∀ now b, Gateway.emit now b body = Gateway.emit now b body' := by
  intro object list body body'
  let data := Written.object [sampleMember "data" (sampleString "x")]
  let id := sampleMember "id" (.string [])
  let kind := sampleMember "type" (sampleString "event")
  let note := sampleMember "note" (.array [.object [], .bool true])
  let event := sampleMember "event" (sampleString "e")
  let timestamp := sampleMember "timestamp" (sampleString "2024-02-29T23:59:60Z")
  let payload := sampleMember "payload" data
  have hsame : Restated Envelope.forms (.object [kind, note, timestamp, event, payload])
      (.array [id.2, kind.2, event.2, timestamp.2, payload.2]) := by
    have hnote : text? note.1 = some "note" := by decide +kernel
    refine .trans (.others [kind] [timestamp, event, payload] note.2 hnote (by decide)) ?_
    refine .trans (.order (.cons _ (.swap _ _ _))) ?_
    have hid : (Envelope.forms.head (List.cons_ne_nil _ _)).NamedBy id.1 := by decide +kernel
    exact .trans (.symm (@Restated.defaults _ [] _ _ id.1 id.2 List.mem_cons_self rfl hid
      (by decide +kernel))) (.positions (by decide +kernel))
  have hobject : Spaced (Written.object [kind, note, timestamp, event, payload]).tokens
      (Utf8.ofText object) := @spaced_spread [] (by decide) _ _ (by decide +kernel)
  have hlist : Spaced (Written.array [id.2, kind.2, event.2, timestamp.2, payload.2]).tokens
      (Utf8.ofText list) := @spaced_spread [.char ' '] (by decide) _ _ (by decide +kernel)
  let name := sampleMember "namespace" (sampleString "n")
  let value := sampleMember "data" (sampleString "x")
  have hsame' : Restated EmitRequest.forms (.object [value, event, name])
      (.array [name.2, event.2, value.2]) :=
    .trans (.order (List.reverse_perm [name, event, value])) (.positions (by decide +kernel))
  have hbody : Spaced (Written.object [value, event, name]).tokens (Utf8.symbols body.body) := by
    rw [symbols_sampleRequest]
    exact @spaced_spread [] (by decide) _ _ (by decide +kernel)
  have hbody' : Spaced (Written.array [name.2, event.2, value.2]).tokens
      (Utf8.symbols body'.body) := by
    rw [symbols_sampleRequest]
    exact @spaced_spread [.char ' '] (by decide) _ _ (by decide +kernel)
  refine ⟨?_, (presentation.2.2.1 hsame hobject hlist).1 "e", by decide +kernel, fun now b => ?_⟩
  · rw [presentation.1.1 hobject]
    decide +kernel
  · exact (presentation.2.2.2 hsame' hbody hbody' (by decide +kernel) (by decide +kernel)
      (by decide +kernel) now b).1 (.inr (by decide +kernel))

/-- The number one, or one of its powers of ten. -/
def sampleNumber (power : Option Nat) : Written :=
  .number ⟨false, ['1'], [],
    power.map fun n => ⟨false, none, Nat.toDigits 10 n, Nat.toDigits_ne_nil, isDigit_toDigits⟩,
    ⟨⟨List.cons_ne_nil _ _, List.forall_mem_singleton.2 (by decide)⟩, by decide⟩,
    List.forall_mem_nil _⟩

/-- A namespace that is no string, and a number too great to be read: the answer to
one of them is 422 and to the other 400.  It is the first one in the body that is
answered, so the order of the members decides; and white space moves the column
that the answer names. -/
theorem unreadable_bodies_answered_by_order :
    let body := sampleRequest "\x7b\"namespace\":1,\"event\":\"e\",\"data\":1e999\x7d"
    let spaced := sampleRequest
      " \x7b \"namespace\" : 1 , \"event\" : \"e\" , \"data\" : 1e999 \x7d"
    let other := sampleRequest "\x7b\"data\":1e999,\"event\":\"e\",\"namespace\":1\x7d"
    (∃ w w', Restated EmitRequest.forms w w' ∧ Spaced w.tokens (Utf8.symbols body.body) ∧
      Spaced w.tokens (Utf8.symbols spaced.body) ∧ Spaced w'.tokens (Utf8.symbols other.body)) ∧
    (∀ r ∈ [body, spaced, other], r.hasJson = true ∧ r.body.length ≤ Gateway.maxBody) ∧
    ∀ now b,
      Gateway.emit now b body = (b, .plain 422
        ("Failed to deserialize the JSON body into the target type: namespace: " ++
          "invalid type: integer `1`, expected a string at line 1 column 14")) ∧
      Gateway.emit now b spaced = (b, .plain 422
        ("Failed to deserialize the JSON body into the target type: namespace: " ++
          "invalid type: integer `1`, expected a string at line 1 column 18")) ∧
      Gateway.emit now b other = (b, .plain 400 ("Failed to parse the request body as JSON: " ++
        "data: number out of range at line 1 column 13")) := by
  intro body spaced other
  let name := sampleMember "namespace" (sampleNumber none)
  let event := sampleMember "event" (sampleString "e")
  let data := sampleMember "data" (sampleNumber (some 999))
  have hbody : Spaced (Written.object [name, event, data]).tokens (Utf8.symbols body.body) := by
    rw [symbols_sampleRequest]
    exact @spaced_spread [] (by decide) _ _ (by decide +kernel)
  have hspaced : Spaced (Written.object [name, event, data]).tokens (Utf8.symbols spaced.body) := by
    rw [symbols_sampleRequest]
    exact @spaced_spread [.char ' '] (by decide) _ _ (by decide +kernel)
  have hother : Spaced (Written.object [data, event, name]).tokens (Utf8.symbols other.body) := by
    rw [symbols_sampleRequest]
    exact @spaced_spread [] (by decide) _ _ (by decide +kernel)
  refine ⟨⟨_, _, .order (List.reverse_perm [data, event, name]), hbody, hspaced, hother⟩,
    by decide +kernel, fun now b => ⟨?_, ?_, ?_⟩⟩
  · exact Gateway.emit_of_not_read (by decide +kernel) now b
  · exact Gateway.emit_of_not_read (by decide +kernel) now b
  · exact Gateway.emit_of_not_read (by decide +kernel) now b

end EventFeed
