import EventFeed.Proofs.Envelope.Content
import EventFeed.Proofs.Envelope.RoundTrip
import EventFeed.Proofs.Json.Depth
import EventFeed.Proofs.Time.Instant

/-!
# EventFeed.Proofs.Envelope.NormalForm

The text that the program writes is a normal form.  Whatever text an envelope is
read off, the envelope is read off its own text as well, because what was read is
ordered and no deeper than a reader goes; and the instant in the text that was
read is the one in the text that is written (`Envelope.normalForm`).
-/

namespace EventFeed

namespace Json

/-! ## Values of trees -/

/-- What a tree stands for can be read. -/
theorem exists_readValue_of_value? {w : Written} {depth : Nat} {j : Json}
    (h : w.value? depth = some j) :
    ∃ bound input rest, readValue bound depth input = .ok (j, rest) := by
  have hspaced : Spaced (w.tokens ++ []) (spread [] (w.tokens ++ [])) :=
    spaced_spread (List.forall_mem_nil _) rfl
  have hgives := gives_readValue (Nat.le_refl _) depth [] _ hspaced fun t ht => by cases ht
  refine ⟨w.tokens.length, spread [] (w.tokens ++ []), ?_⟩
  rw [h] at hgives
  generalize readValue w.tokens.length depth (spread [] (w.tokens ++ [])) = r at hgives
  cases hgives with
  | read left => exact ⟨_, rfl⟩

theorem ordered_of_value? {w : Written} {depth : Nat} {j : Json} (h : w.value? depth = some j) :
    j.Ordered := by
  obtain ⟨bound, input, rest, hread⟩ := exists_readValue_of_value? h
  exact ordered_of_readValue hread

theorem depth_le_of_value? {w : Written} {depth : Nat} {j : Json} (h : w.value? depth = some j) :
    j.depth ≤ depth := by
  obtain ⟨bound, input, rest, hread⟩ := exists_readValue_of_value? h
  exact depth_le_of_readValue hread

/-- A field without a default has one value. -/
theorem exists_of_field_eq_some {α : Type} {value? : Written → Option α} {xs : List Written} {v : α}
    (h : Written.field value? none xs = some v) : ∃ x, xs = [x] ∧ value? x = some v := by
  match xs, h with
  | [x], h => exact ⟨x, rfl, h⟩

end Json

namespace Envelope

open Json
open Json.Written (pairs? given field)

/-! ## What is read -/

/-- The timestamp and the payload of an envelope are what its pairs give. -/
theorem of_ofPairs? {ps : List (String × Written)} {m : Envelope} (h : ofPairs? ps = some m) :
    field momentOf? none (given "timestamp" ps) = some m.timestamp ∧
      field (Written.value? fieldDepth) (some .null) (given "payload" ps) = some m.payload := by
  rw [ofPairs?] at h
  obtain ⟨id, -, h⟩ := Option.bind_eq_some_iff.1 h
  obtain ⟨kind, -, h⟩ := Option.bind_eq_some_iff.1 h
  obtain ⟨event, -, h⟩ := Option.bind_eq_some_iff.1 h
  obtain ⟨timestamp, htimestamp, h⟩ := Option.bind_eq_some_iff.1 h
  obtain ⟨payload, hpayload, h⟩ := Option.bind_eq_some_iff.1 h
  cases h
  exact ⟨htimestamp, hpayload⟩

/-- A payload that is read is ordered, and lies in its envelope no deeper than a
reader goes. -/
theorem payload_of_ofPairs? {ps : List (String × Written)} {m : Envelope}
    (h : ofPairs? ps = some m) : m.payload.Ordered ∧ m.payload.depth + 1 ≤ maxDepth := by
  obtain ⟨-, hpayload⟩ := of_ofPairs? h
  match given "payload" ps, hpayload with
  | [], hpayload =>
    rw [← Option.some.inj hpayload]
    exact ⟨trivial, by decide⟩
  | [x], hpayload =>
    exact ⟨ordered_of_value? hpayload, Nat.succ_le_succ (depth_le_of_value? hpayload)⟩

/-- The text of the timestamp that a tree gives. -/
def timestampText? (w : Written) : Option String :=
  (w.pairs? fieldNames).bind fun ps => field Written.string? none (given "timestamp" ps)

/-- It denotes the instant of the envelope's timestamp. -/
theorem denoted?_of_ofTree? {w : Written} {m : Envelope} (h : ofTree? w = some m) :
    ∃ τ, timestampText? w = some τ ∧ Timestamp.denoted? τ = some m.timestamp.instant := by
  obtain ⟨ps, hps, hm⟩ := Option.bind_eq_some_iff.1 h
  obtain ⟨x, hgiven, hx⟩ := exists_of_field_eq_some (of_ofPairs? hm).1
  obtain ⟨τ, hτ, hmoment⟩ := Option.bind_eq_some_iff.1 hx
  refine ⟨τ, ?_, Timestamp.denoted?_of_ofText? hmoment⟩
  rw [timestampText?, hps, Option.bind_some, hgiven]
  exact hτ

/-- **What was read is read again** off the text that is written then. -/
theorem ofText_text_of_ofText {s : String} {m : Envelope} (h : ofText s = .ok m)
    (hintegers : m.payload.AllIntegers) : ofText m.text = .ok m := by
  obtain ⟨w, hw⟩ := exists_tree_of_ofText h
  have htree : ofTree? w = some m := by rw [← toOption_ofText hw, h]; rfl
  obtain ⟨ps, -, hm⟩ := Option.bind_eq_some_iff.1 htree
  obtain ⟨hordered, hdepth⟩ := payload_of_ofPairs? hm
  exact ofText_text hintegers hordered hdepth

/-! ## The normal form -/

/-- **Envelopes have a normal form.**  Every envelope with integers of 64 bits in an
ordered payload that is not too deep is read off its own text.  So what is read off
any text, whose payload is like that but for the order of members, has a text off
which it is read again; and whatever tree that first text has, the timestamp in it
and the one that is written denote the same instant.  A date and a time with an
offset denote the instant that comes so much earlier. -/
theorem normalForm :
    (∀ {m : Envelope}, m.payload.AllIntegers → m.payload.Ordered →
      m.payload.depth + 1 ≤ maxDepth → ofText m.text = .ok m) ∧
    (∀ {s : String} {m : Envelope}, ofText s = .ok m → m.payload.AllIntegers →
      ofText m.text = .ok m ∧
        (∃ w : Written, Spaced w.tokens (Utf8.ofText s)) ∧
        ∀ {w : Written}, Spaced w.tokens (Utf8.ofText s) →
          ∃ τ i, timestampText? w = some τ ∧ Timestamp.denoted? τ = some i ∧
            Timestamp.denoted? m.timestamp.text = some i) ∧
    ∀ (t : Timestamp) (negative : Bool) {hours minutes : Nat}, hours < 24 → minutes < 60 →
      Timestamp.denoted?
          (String.ofList (t.localChars ++ Timestamp.offsetChars negative hours minutes)) =
        some ⟨t.date.ordinal * 1440 + t.minute.val -
          Timestamp.offsetMinutes negative hours minutes, t.second, t.nanos⟩ := by
  refine ⟨ofText_text, fun {s m} h hintegers => ?_, Timestamp.denoted?_offset⟩
  refine ⟨ofText_text_of_ofText h hintegers, exists_tree_of_ofText h, fun {w} hw => ?_⟩
  have htree : ofTree? w = some m := by rw [← toOption_ofText hw, h]; rfl
  obtain ⟨τ, hτ, hdenoted⟩ := denoted?_of_ofTree? htree
  exact ⟨τ, _, hτ, hdenoted, Timestamp.denoted?_of_ofText? (Timestamp.ofText?_text m.timestamp)⟩

/-- An envelope with 126 lists in one another is read off its text; an object in
another order, with a member that is no field and an offset that moves a leap second
into the year before, has a normal form; and half an hour behind universal time is
half an hour later. -/
theorem normalForm_of_offset :
    let deep : Envelope := ⟨"\n", .command, some "é", default, .nested 126⟩
    let s := "\x7b\"payload\":\x7b\"b\":-1,\"a\":[]\x7d,\"note\":[1.5],\"timestamp\":" ++
      "\"2024-01-01 00:30:60.5+01:00\",\"type\":\x7b\"event\":null\x7d\x7d"
    let s' := "\x7b\"id\":\"\",\"type\":\"event\",\"timestamp\":\"2023-12-31T23:30:60.500Z\"," ++
      "\"payload\":\x7b\"a\":[],\"b\":-1\x7d\x7d"
    ofText deep.text = .ok deep ∧
      (∃ m, ofText s = .ok m ∧ m.text = s' ∧ ofText s' = .ok m) ∧
      Timestamp.denoted? "2024-01-01 00:30:60.5+01:00" =
        Timestamp.denoted? "2023-12-31T23:30:60.500Z" ∧
      Timestamp.denoted? "1970-01-01T00:00:00-00:30" = some ⟨719163 * 1440 + 30, 0, 0⟩ := by
  intro deep s s'
  have hdeep : ofText deep.text = .ok deep :=
    normalForm.1 (allIntegers_nested 126) (ordered_nested 126) (by simp [deep, maxDepth])
  -- what is read, and the tree that it is read off
  have hread : ((ofText s).toOption.map fun m => (m.text, m.timestamp.text,
      decide m.payload.AllIntegers)) = some (s', "2023-12-31T23:30:60.500Z", true) := by
    decide +kernel
  obtain ⟨m, hm, hwritten⟩ := Option.map_eq_some_iff.1 hread
  simp only [Prod.mk.injEq, decide_eq_true_eq] at hwritten
  obtain ⟨htext, htimestamp, hintegers⟩ := hwritten
  have hok : ofText s = .ok m := by
    cases h : ofText s with
    | error f => rw [h] at hm; cases hm
    | ok m' => rw [h] at hm; cases hm; rfl
  let digit (c : Char) (h : c.isDigit = true ∧ c ≠ '0') (negative : Bool) (fraction : List Char)
      (hfraction : ∀ c ∈ fraction, c.isDigit = true) : Written :=
    .number ⟨negative, [c], fraction, none,
      ⟨⟨List.cons_ne_nil _ _, List.forall_mem_singleton.2 h.1⟩,
        fun hzero => absurd (Option.some.inj hzero) h.2⟩, hfraction⟩
  let w : Written := .object [
    (plainly "payload", .object
      [(plainly "b", digit '1' (by decide) true [] (List.forall_mem_nil _)),
      (plainly "a", .array [])]),
    (plainly "note", .array [digit '1' (by decide) false ['5'] (List.forall_mem_singleton.2 rfl)]),
    (plainly "timestamp", .string (plainly "2024-01-01 00:30:60.5+01:00")),
    (plainly "type", .object [(plainly "event", .null)])]
  have hw : Spaced w.tokens (Utf8.ofText s) := @spaced_spread [] (by decide) _ _ (by decide +kernel)
  obtain ⟨hagain, -, hinstant⟩ := normalForm.2.1 hok hintegers
  obtain ⟨τ, i, hτ, hdenoted, hdenoted'⟩ := hinstant hw
  have hgiven : timestampText? w = some "2024-01-01 00:30:60.5+01:00" := by decide +kernel
  obtain rfl : τ = "2024-01-01 00:30:60.5+01:00" := Option.some.inj (hτ.symm.trans hgiven)
  rw [htext] at hagain
  rw [htimestamp] at hdenoted'
  have hbehind := normalForm.2.2 default true (show 0 < 24 by decide) (show 30 < 60 by decide)
  have hchars :
      String.ofList ((default : Timestamp).localChars ++ Timestamp.offsetChars true 0 30) =
        "1970-01-01T00:00:00-00:30" := by decide +kernel
  rw [hchars] at hbehind
  exact ⟨hdeep, ⟨m, hok, htext, hagain⟩, hdenoted.trans hdenoted'.symm, hbehind.trans (by decide)⟩

end Envelope

end EventFeed
