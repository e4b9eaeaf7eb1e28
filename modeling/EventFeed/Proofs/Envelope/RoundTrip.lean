import EventFeed.Envelope.Reader
import EventFeed.Proofs.Json.Depth
import EventFeed.Proofs.Json.Record
import EventFeed.Proofs.Time.RoundTrip

/-!
# EventFeed.Proofs.Envelope.RoundTrip

Envelopes are read as they are written, but for the numbers in their payloads, which
are read again (`Envelope.ofText_text_reread`); integers stay as they are
(`Envelope.ofText_text`).  An envelope is refused if its payload is too deep
(`Envelope.ofText_refused`).  The members fill the fields of the record in the order in
which they are declared; a missing event member is left to its default.
-/

namespace EventFeed

namespace Envelope

open Json (EndsNumber Reads)
open Json.Record (Fills)

/-! ## Fields -/

theorem readKind_chars (depth : Nat) (k : Kind) (rest : Input) :
    readKind depth ((Json.string k.name).chars.map .char ++ rest) = .ok (k, rest) := by
  rw [Json.chars, Json.map_stringChars, readKind, Json.skipSpace_of_starts (by decide)]
  simp only [readKindName, Json.skipSpace_of_starts (by decide : Json.Starts '"'),
    Json.readString_escaped, bind, Except.bind, Kind.ofName?_name, pure, Except.pure]

theorem readTimestamp_chars (t : Timestamp) (rest : Input) :
    readTimestamp ((Json.string t.text).chars.map .char ++ rest) = .ok (t, rest) := by
  rw [Json.chars, Json.map_stringChars, readTimestamp, Json.skipSpace_of_starts (by decide)]
  simp only [Json.readString_escaped, bind, Except.bind, Timestamp.ofText?_text, pure, Except.pure]

/-! ## The envelope -/

/-- The draft that the members of an envelope make. -/
def drafted (m : Envelope) : Draft :=
  ⟨some m.id, some m.kind, m.event.map some, some m.timestamp, some m.payload⟩

/-- The members in front of the payload. -/
def head (m : Envelope) : List (String × Json) :=
  [("id", .string m.id), ("type", .string m.kind.name)] ++ eventMember m.event ++
    [("timestamp", .string m.timestamp.text)]

/-- The draft that they make. -/
def draftedHead (m : Envelope) : Draft :=
  ⟨some m.id, some m.kind, m.event.map some, some m.timestamp, none⟩

theorem members_eq (m : Envelope) : m.members = m.head ++ [("payload", m.payload)] := by
  simp [members, head]

/-- The members in front of the payload fill their fields. -/
theorem fills_head (m : Envelope) (bound depth : Nat) :
    Fills shape bound depth Draft.empty m.head (draftedHead m) := by
  obtain ⟨id, kind, event, timestamp, payload⟩ := m
  have hlast (event' : Option (Option String)) : Fills shape bound depth
      ⟨some id, some kind, event', none, none⟩ [("timestamp", .string timestamp.text)]
      ⟨some id, some kind, event', some timestamp, none⟩ := by
    refine .member _ rfl rfl (fun rest _ => ?_) (.done _)
    simp only [readTimestamp_chars, bind, Except.bind, pure, Except.pure]
  refine .member ⟨some id, none, none, none, none⟩ rfl rfl (fun rest _ => ?_)
    (.member ⟨some id, some kind, none, none, none⟩ rfl rfl (fun rest _ => ?_) ?_)
  · simp only [Json.readText_chars, bind, Except.bind, pure, Except.pure]
    rfl
  · simp only [readKind_chars, bind, Except.bind, pure, Except.pure]
  cases event with
  | none => exact hlast none
  | some name =>
    refine .member ⟨some id, some kind, some (some name), none, none⟩ rfl rfl
      (fun rest _ => ?_) (hlast (some (some name)))
    simp only [Json.readOptionalText_chars, bind, Except.bind, pure, Except.pure]

/-- The envelope with every number of its payload read again. -/
def reread (m : Envelope) : Envelope := { m with payload := m.payload.reread }

/-- The members of an envelope fill its fields. -/
theorem fills_members {m : Envelope} {bound depth : Nat}
    (hpayload : Reads (Json.readValue bound depth) m.payload) :
    Fills shape bound depth Draft.empty m.members (drafted m.reread) := by
  rw [members_eq]
  refine (fills_head m bound depth).append (.member _ rfl rfl (fun rest hrest => ?_) (.done _))
  simp only [hpayload rest hrest, bind, Except.bind, pure, Except.pure]
  rfl

/-- Their defaults complete the draft. -/
theorem complete_drafted (m : Envelope) :
    Json.Record.complete shape.fields (drafted m) =
      .ok ⟨some m.id, some m.kind, some m.event, some m.timestamp, some m.payload⟩ := by
  obtain ⟨id, kind, event, timestamp, payload⟩ := m
  cases event <;> rfl

/-- The payload is one of the members. -/
theorem payload_mem_members (m : Envelope) : ("payload", m.payload) ∈ m.members := by
  simp [members]

/-- **Every envelope is read off its text**, with the numbers of its payload read
again, if these fit and the payload is ordered and not too deep for a reader that is
inside the envelope already. -/
theorem ofText_text_reread {m : Envelope} (hfits : m.payload.Fits)
    (hordered : m.payload.Ordered) (hdepth : m.payload.depth + 1 ≤ Json.maxDepth) :
    ofText m.text = .ok m.reread := by
  obtain ⟨depth, hmax⟩ : ∃ depth, Json.maxDepth = depth + 1 := ⟨126, rfl⟩
  have hpayload : Reads (Json.readValue (Json.boundOf (Utf8.ofText (Json.record m.members))) depth)
      m.payload :=
    Json.readValue_chars hfits hordered (by omega)
      (Json.length_member_le_boundOf (payload_mem_members m))
  have hread := Json.Record.read_object (fills_members hpayload) (complete_drafted m.reread)
    (Json.length_object_le_boundOf m.members) []
  rw [← Json.symbols_record, ← hmax] at hread
  rw [ofText, text, Json.readAll]
  show (read _ _ _ >>= _) = _
  rw [read, hread]
  rfl

/-- An envelope whose payload has integers only is read as it was written. -/
theorem ofText_text {m : Envelope} (hintegers : m.payload.AllIntegers)
    (hordered : m.payload.Ordered) (hdepth : m.payload.depth + 1 ≤ Json.maxDepth) :
    ofText m.text = .ok m := by
  rw [ofText_text_reread (Json.fits_of_allIntegers hintegers) hordered hdepth, reread,
    Json.reread_of_allIntegers hintegers]

/-- **An envelope is refused** if its payload is too deep for that reader. -/
theorem ofText_refused {m : Envelope} (hfits : m.payload.Fits)
    (hordered : m.payload.Ordered) (hdepth : Json.maxDepth < m.payload.depth + 1) :
    ∃ e, ofText m.text = .error e := by
  obtain ⟨depth, hmax⟩ : ∃ depth, Json.maxDepth = depth + 1 := ⟨126, rfl⟩
  have hread : ∃ e, shape.read Draft.empty (Json.boundOf (Utf8.ofText (Json.record m.members)))
      (depth + 1)
      ((Json.object (m.head ++ [("payload", m.payload)])).chars.map .char ++ []) = .error e := by
    refine Json.Record.read_object_refused (fills_head m _ depth) rfl rfl (fun rest hrest => ?_) []
    obtain ⟨e, he⟩ := Json.readValue_of_depth_lt hfits hordered
      (by omega : depth < m.payload.depth)
      (Json.length_member_le_boundOf (payload_mem_members m)) hrest
    exact ⟨e, by simp only [he, bind, Except.bind]⟩
  obtain ⟨e, hread⟩ := hread
  rw [← members_eq, ← Json.symbols_record, ← hmax] at hread
  refine ⟨e, ?_⟩
  rw [ofText, text, Json.readAll]
  show (read _ _ _ >>= _) = _
  rw [read, hread]
  rfl

end Envelope

end EventFeed
