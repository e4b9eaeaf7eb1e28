import EventFeed.Proofs.Envelope.RoundTrip

/-!
# EventFeed.Proofs.Envelope.Messages

What listeners make of the messages of a gateway.  The envelope of an event
gives its data, with the numbers read again, to those who listen for its name, unless
the data is too deep (`decodeEvent_reread`); integers are given as they are
(`decodeEvent_text_ofEvent`).  A refusal gives nothing to anybody
(`decodeEvent_refusal`).
-/

namespace EventFeed

/-- An event whose envelope can be read: its data has integers only, in
ordered objects, and lies no deeper than a reader goes. -/
structure Event.Readable (e : Event) : Prop where
  integers : e.data.AllIntegers
  ordered : e.data.Ordered
  shallow : e.data.depth + 2 ≤ Json.maxDepth

/-- An event whose data is a text can be read from its envelope. -/
theorem Event.readable_of_string (now : Timestamp) (n : Namespace) (name s : String) :
    (Event.publishedAt now n name (.string s)).Readable := by
  have hdepth : Json.depth (.string s) + 2 ≤ Json.maxDepth := by
    simp [Json.depth, Json.maxDepth]
  exact ⟨by simp [Event.publishedAt, Json.AllIntegers], by simp [Event.publishedAt, Json.Ordered],
    hdepth⟩

namespace Envelope

/-- An event's data lies one deeper in the payload. -/
@[simp] theorem depth_payload (e : Event) : e.payload.depth = e.data.depth + 1 := by
  simp [Event.payload, Json.depth, Json.depthMembers]

theorem fits_payload {e : Event} (h : e.data.Fits) : e.payload.Fits := ⟨h, trivial⟩

theorem ordered_payload {e : Event} (h : e.data.Ordered) : e.payload.Ordered :=
  ⟨List.pairwise_singleton _ _, h, trivial⟩

/-- An event whose data is too deep is shown to nobody. -/
theorem decodeEvent_of_deep {e : Event} (hfits : e.data.Fits) (hordered : e.data.Ordered)
    (hdeep : Json.maxDepth < e.data.depth + 2) (id : Uuid) (name : String) :
    decodeEvent (ofEvent id e).text name = none := by
  have hrefused : ∃ f, ofText (ofEvent id e).text = .error f :=
    ofText_refused (fits_payload hfits) (ordered_payload hordered)
      (show _ < e.payload.depth + 1 by rw [depth_payload]; exact hdeep)
  obtain ⟨f, hrefused⟩ := hrefused
  rw [decodeEvent, hrefused]

/-- **What an envelope gives to whom**: to those who listen for the very name of the
event, its data with the numbers read again, if the data, which lies in the payload
within the envelope, is no deeper there than a reader goes; nothing otherwise. -/
theorem decodeEvent_reread {e : Event} (hfits : e.data.Fits) (hordered : e.data.Ordered)
    (id : Uuid) (name : String) :
    decodeEvent (ofEvent id e).text name =
      if name = e.name ∧ e.data.depth + 2 ≤ Json.maxDepth then some (dataText e.data.reread)
      else none := by
  by_cases hdepth : e.data.depth + 2 ≤ Json.maxDepth
  · have hread : ofText (ofEvent id e).text = .ok (ofEvent id e).reread :=
      ofText_text_reread (fits_payload hfits) (ordered_payload hordered)
        (show e.payload.depth + 1 ≤ _ by rw [depth_payload]; exact hdepth)
    have hget : e.payload.reread.get? "data" = some e.data.reread := rfl
    rw [decodeEvent, hread]
    simp only [dataOf?, reread, ofEvent, hget, Option.map_some, true_and, Option.some.injEq, hdepth,
      and_true, eq_comm]
  · rw [decodeEvent_of_deep hfits hordered (Nat.not_le.1 hdepth)]
    simp only [hdepth, and_false, if_false]

/-- The data of a readable event is shown to those who listen for its name. -/
theorem decodeEvent_ofEvent {e : Event} (h : e.Readable) (id : Uuid) (name : String) :
    decodeEvent (ofEvent id e).text name =
      if e.name = name then some (dataText e.data) else none := by
  rw [decodeEvent_reread (Json.fits_of_allIntegers h.integers) h.ordered,
    Json.reread_of_allIntegers h.integers]
  simp only [h.shallow, and_true, eq_comm]

/-- **Integers are given as they are**: the data of the event to those who
listen for its very name, if the data, which lies in the payload within the
envelope, is no deeper there than a reader goes; nothing otherwise. -/
theorem decodeEvent_text_ofEvent {e : Event} (hintegers : e.data.AllIntegers)
    (hordered : e.data.Ordered) (id : Uuid) (name : String) :
    decodeEvent (ofEvent id e).text name =
      if name = e.name ∧ e.data.depth + 2 ≤ Json.maxDepth then some (dataText e.data)
      else none := by
  rw [decodeEvent_reread (Json.fits_of_allIntegers hintegers) hordered,
    Json.reread_of_allIntegers hintegers]

/-- Data of 125 lists in one another is given and of 126 is not, the
greatest and the least integer are, and names are compared to the letter. -/
theorem decodeEvent_text_ofEvent_limits :
    let event (name : String) (data : Json) := Event.publishedAt default .standard name data
    decodeEvent (ofEvent default (event "name" (.nested 125))).text "name" =
        some (Json.nested 125).text ∧
      decodeEvent (ofEvent default (event "name" (.nested 126))).text "name" = none ∧
      decodeEvent (ofEvent default (event "\"né\u2603\"" (.string "a\"\n☃"))).text
        "\"né\u2603\"" = some "a\"\n☃" ∧
      decodeEvent (ofEvent default (event "name" (.array [.number (.integer 0xffffffffffffffff),
        .number (.integer (-0x8000000000000000))]))).text "name" =
        some "[18446744073709551615,-9223372036854775808]" ∧
      decodeEvent (ofEvent default (event "name" .null)).text "Name" = none := by
  intro event
  have hgives (name wanted : String) (data : Json) (hintegers : data.AllIntegers)
      (hordered : data.Ordered) :=
    decodeEvent_text_ofEvent (e := event name data) hintegers hordered default wanted
  have hshallow : (Json.nested 125).depth + 2 ≤ Json.maxDepth := by simp [Json.maxDepth]
  have hdeep : ¬(Json.nested 126).depth + 2 ≤ Json.maxDepth := by simp [Json.maxDepth]
  refine ⟨?_, ?_, ?_, ?_, ?_⟩
  · rw [hgives _ _ _ (Json.allIntegers_nested 125) (Json.ordered_nested 125),
      if_pos ⟨rfl, hshallow⟩]
    rfl
  · rw [hgives _ _ _ (Json.allIntegers_nested 126) (Json.ordered_nested 126),
      if_neg fun h => hdeep h.2]
  · exact hgives _ _ (.string _) trivial trivial
  · rw [hgives _ _ (.array [.number (.integer _), .number (.integer _)])
      ⟨by decide, by decide, trivial⟩ ⟨trivial, trivial, trivial⟩, if_pos ⟨rfl, by decide⟩]
    decide +kernel
  · exact hgives _ _ .null trivial trivial

/-- A refusal is read as it was made. -/
theorem ofText_refusal (now : Timestamp) (id : String) {code : Nat} (h : code < 2 ^ 64)
    (message : String) :
    ofText (refusal now id code message).text = .ok (refusal now id code message) := by
  have hfits : Number.FitsInt (code : Int) := by
    constructor <;> omega
  have hincreasing : Json.Increasing [("code", .ofNat code), ("message", .string message)] := by
    have hlt : "code" < "message" := by decide
    refine List.pairwise_cons.2 ⟨fun m hm => ?_, List.pairwise_singleton _ _⟩
    rw [List.mem_singleton.1 hm]
    exact hlt
  refine ofText_text ⟨hfits, trivial, trivial⟩ ⟨hincreasing, trivial, trivial, trivial⟩ ?_
  simp [refusal, Json.depth, Json.depthMembers, Json.ofNat, Json.maxDepth]

/-- It is no event, whatever it says. -/
theorem decodeEvent_refusal (now : Timestamp) (id : String) {code : Nat} (h : code < 2 ^ 64)
    (message name : String) : decodeEvent (refusal now id code message).text name = none := by
  rw [decodeEvent, ofText_refusal now id h]
  simp [dataOf?, refusal]

end Envelope

end EventFeed
