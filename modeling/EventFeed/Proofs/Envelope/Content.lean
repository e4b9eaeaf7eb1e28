import EventFeed.Envelope.Reader
import EventFeed.Proofs.Json.Content
import EventFeed.Proofs.Json.Grammar

/-!
# EventFeed.Proofs.Envelope.Content

What envelopes are made of.  An envelope is read off a tree (`Envelope.ofTree?`)
field by field, whatever the text is in which the tree is written
(`Envelope.toOption_ofText`), and only its content decides what it is
(`Envelope.onContent`).  Conversely, every text that is read as an envelope has a
tree (`Envelope.exists_tree_of_ofText`).
-/

namespace EventFeed

namespace Envelope

open Json
open Json.Written (pairs? given field string? optionalString?)

/-! ## Trees -/

/-- A kind whose name is that of a member with this value, no others following. -/
def Kind.alone? : Written → List (List Piece × Written) → Kind → Option Kind
  | .null, [], kind => some kind
  | _, _, _ => none

/-- The kind that a tree stands for: that of a name, or that of the only member of
an object, which is null. -/
def Kind.ofTree? : Written → Option Kind
  | .string ps => (text? ps).bind ofName?
  | .object ((k, x) :: ms) => ((text? k).bind ofName?).bind (alone? x ms)
  | _ => none

/-- The moment that a tree stands for. -/
def momentOf? (w : Written) : Option Timestamp := w.string?.bind Timestamp.ofText?

/-- The names of the fields, in their order. -/
def fieldNames : List String := ["id", "type", "event", "timestamp", "payload"]

/-- The envelope that is made of named values. -/
def ofPairs? (ps : List (String × Written)) : Option Envelope := do
  let id ← field string? (some "") (given "id" ps)
  let kind ← field Kind.ofTree? none (given "type" ps)
  let event ← field optionalString? (some none) (given "event" ps)
  let timestamp ← field momentOf? none (given "timestamp" ps)
  let payload ← field (Written.value? fieldDepth) (some .null) (given "payload" ps)
  return ⟨id, kind, event, timestamp, payload⟩

/-- The envelope that a tree stands for. -/
def ofTree? (w : Written) : Option Envelope := (w.pairs? fieldNames).bind ofPairs?

/-- The fields of an envelope: which values suit them, and which are as good as
none. -/
def forms : List FieldForm := [
  ⟨"id", fun w => w.string?.isSome, some (.string [])⟩,
  ⟨"type", fun w => (Kind.ofTree? w).isSome, none⟩,
  ⟨"event", fun w => w.optionalString?.isSome, some .null⟩,
  ⟨"timestamp", fun w => (momentOf? w).isSome, none⟩,
  ⟨"payload", fun w => (w.value? fieldDepth).isSome, some .null⟩]

/-! ## Rules -/

/-- The rules of the fields. -/
def rules : List (Rule Draft) := [
  .of "id" (·.id.isSome) (fun v d => { d with id := some v }) string? (some ""),
  .of "type" (·.kind.isSome) (fun v d => { d with kind := some v }) Kind.ofTree? none,
  .of "event" (·.event.isSome) (fun v d => { d with event := some v }) optionalString? (some none),
  .of "timestamp" (·.timestamp.isSome) (fun v d => { d with timestamp := some v }) momentOf? none,
  .of "payload" (·.payload.isSome) (fun v d => { d with payload := some v })
    (Written.value? fieldDepth) (some .null)]

/-- Every rule fits the form of its field. -/
theorem fits_rules : List.Forall₂ Rule.Fits forms rules :=
  .cons (Rule.fits_of _ _ _ rfl) <| .cons (Rule.fits_of _ _ _ rfl) <|
    .cons (Rule.fits_of _ _ _ rfl) <| .cons (Rule.fits_of _ _ _ rfl) <|
    .cons (Rule.fits_of _ _ _ (by rw [Option.bind_some, Written.value?])) .nil

theorem ofTree?_eq (w : Written) :
    ofTree? w = (record? rules Draft.empty w).bind Draft.finish? := by
  have hpairs (ps : List (String × Written)) :
      ofPairs? ps = (setAll rules ps Draft.empty).bind Draft.finish? := by
    rw [ofPairs?, rules]
    simp only [setAll_of]
    simp only [setAll, Option.bind_assoc, bind, pure]
    rfl
  rw [ofTree?, record?, Option.bind_assoc]
  exact congrArg _ (funext hpairs)

/-! ## Reading -/

theorem gives_readKindName {ps : List Piece} {more : List Input} {input rest : Input}
    (hskip : skipSpace input = .char '"' :: (closed ps ++ rest)) (hrest : Spaced more rest) :
    Gives more ((text? ps).bind Kind.ofName?) (readKindName input) := by
  rw [readKindName, hskip]
  refine (gives_readString ps hrest).bind fun name rest hrest => ?_
  dsimp only
  cases Kind.ofName? name with
  | none => exact .refused
  | some k => exact .read hrest

/-- Null is a unit. -/
theorem readUnit_null {more : List Input} {input : Input}
    (h : Spaced (Written.null.tokens ++ more) input) :
    ∃ rest, readUnit input = .ok rest ∧ Spaced more rest := by
  obtain ⟨rest, hskip, hrest⟩ := Spaced.skipSpace_cons h rfl
  refine ⟨rest, ?_, hrest⟩
  rw [readUnit, hskip]
  rfl

/-- No other value is. -/
theorem readUnit_refused {w : Written} (hw : w ≠ .null) {more : List Input} {input : Input}
    (h : Spaced (w.tokens ++ more) input) : ∃ f, readUnit input = .error f := by
  obtain ⟨c, rest, hskip, hc⟩ := h.skipSpace_value
  rw [readUnit, hskip]
  split
  · next hn => exact absurd (hc.null_of (Symbol.char.inj (List.cons.inj hn).1)) hw
  · next hn => cases hn
  · exact exists_refuse_eq _ _

/-- The name of a kind is followed by a unit and the end of the object. -/
theorem gives_closeKind (x : Written) (ms : List (List Piece × Written)) {kind : Kind}
    {more : List Input} {input : Input}
    (h : Spaced (x.tokens ++ (Written.moreMembers ms ++ more)) input) :
    Gives more (Kind.alone? x ms kind)
      (readUnit input >>= fun rest => closeKind rest >>= fun rest => .ok (kind, rest)) := by
  by_cases hx : x = .null
  · subst hx
    obtain ⟨rest, hunit, h⟩ := readUnit_null h
    rw [hunit]
    cases ms with
    | nil =>
      obtain ⟨behind, hskip, hbehind⟩ := Spaced.skipSpace_mark h (by decide)
      simp only [bind, Except.bind, closeKind, hskip]
      exact .read hbehind
    | cons m ms =>
      obtain ⟨behind, hskip, -⟩ := Spaced.skipSpace_mark h (by decide)
      simp only [bind, Except.bind, closeKind, hskip]
      exact .refused
  · obtain ⟨f, hunit⟩ := readUnit_refused hx h
    have hnone : Kind.alone? x ms kind = none := by
      cases x with
      | null => exact absurd rfl hx
      | _ => rfl
    rw [hunit, hnone]
    exact .refused

/-- A kind is read off a string or an object. -/
theorem gives_readKind (depth : Nat) (w : Written) :
    GivesOn (readKind (depth + 1)) (Kind.ofTree? w) w := by
  intro more input h _
  have hrefused (hstring : ∀ ps, w ≠ .string ps) (hobject : ∀ ms, w ≠ .object ms) :
      Gives more (none : Option Kind) (readKind (depth + 1) input) := by
    obtain ⟨c, rest, hskip, hc⟩ := h.skipSpace_value
    rw [readKind, hskip]
    split
    · next h => cases h
    · next h => exact ((hc.string_of (Symbol.char.inj (List.cons.inj h).1)).elim hstring).elim
    · next h => exact ((hc.object_of (Symbol.char.inj (List.cons.inj h).1)).elim hobject).elim
    · exact .refused
  cases w with
  | null => exact hrefused (by simp) (by simp)
  | bool b => exact hrefused (by simp) (by simp)
  | number f => exact hrefused (by simp) (by simp)
  | array xs => exact hrefused (by simp) (by simp)
  | string ps =>
    obtain ⟨rest, hskip, hrest⟩ := h.skipSpace_quote
    have hagain := skipSpace_of_starts (by decide : Starts '"') (closed ps ++ rest)
    rw [readKind, hskip]
    exact gives_readKindName hagain hrest
  | object ms =>
    cases ms with
    | nil =>
      obtain ⟨rest, hskip, hrest⟩ := Spaced.skipSpace_mark h (by decide)
      obtain ⟨behind, hclose, -⟩ := hrest.skipSpace_mark (by decide)
      rw [readKind, hskip]
      simp only [hclose]
      exact .refused
    | cons m ms =>
      obtain ⟨k, x⟩ := m
      simp only [Written.tokens, List.cons_append, List.append_assoc] at h
      obtain ⟨rest, hskip, h⟩ := h.skipSpace_mark (by decide)
      obtain ⟨behind, hname, h⟩ := Spaced.skipSpace_cons h rfl
      have hagain := skipSpace_of_starts (by decide : Starts '"') (closed k ++ behind)
      rw [readKind, hskip]
      simp only [hname]
      refine (gives_readKindName hagain h).bind fun kind rest h => ?_
      obtain ⟨next, hcolon, h⟩ := h.readColon
      simp only [hcolon]
      exact gives_closeKind x ms h

/-- A moment is read off a string. -/
theorem gives_readTimestamp (w : Written) : GivesOn readTimestamp (momentOf? w) w := by
  refine givesOn_string (fun hskip hrest => ?_) fun hskip hc _ => ?_
  · rw [readTimestamp, hskip]
    refine (gives_readString _ hrest).bind fun s rest hrest => ?_
    dsimp only
    cases Timestamp.ofText? s with
    | none => exact .refused
    | some t => exact .read hrest
  · rw [readTimestamp, hskip]
    split
    · next h => exact absurd (Symbol.char.inj (List.cons.inj h).1) hc
    · next h => cases h
    · obtain ⟨f, hrefuse⟩ := exists_refuse_eq (α := String × Input) _ _
      rw [hrefuse]
      exact ⟨f, rfl⟩

/-- The fields follow rules of their own. -/
theorem ruled_shape : Ruled rules shape Draft.empty fieldDepth where
  rules_ne := List.cons_ne_nil _ _
  governed bound := by
    refine .cons ?_ (.cons ?_ (.cons ?_ (.cons ?_ (.cons ?_ .nil))))
    · exact Rule.governs_of rfl rfl (fun _ => rfl) (fun _ _ => rfl) fun _ => gives_readText _
    · exact Rule.governs_of rfl rfl (fun _ => rfl) (fun _ _ => rfl) fun _ => gives_readKind _ _
    · exact Rule.governs_of rfl rfl (fun _ => rfl) (fun _ _ => rfl) fun _ =>
        gives_readOptionalText _
    · exact Rule.governs_of rfl rfl (fun _ => rfl) (fun _ _ => rfl) fun _ => gives_readTimestamp _
    · exact Rule.governs_of rfl rfl (fun _ => rfl) (fun _ _ => rfl) fun h => gives_readValue h _
  fills := by
    simp only [rules, List.forall_mem_cons]
    refine ⟨?_, ?_, ?_, ?_, ?_, List.forall_mem_nil _⟩ <;> exact Rule.fills_of (fun _ _ => rfl) _ _
  apart := by
    simp only [rules, List.pairwise_cons, List.forall_mem_cons, List.not_mem_nil, false_implies,
      implies_true, and_true, List.Pairwise.nil]
    refine ⟨⟨?_, ?_, ?_, ?_⟩, ⟨?_, ?_, ?_⟩, ⟨?_, ?_⟩, ?_⟩ <;>
      exact Rule.apart_of (by decide) (by intros; rfl) (by intros; rfl) (by intros; rfl) _ _ _ _
  unfilled := by simp [rules, Rule.of, Draft.empty]

/-- **Only the content of a text decides** which envelope it is read as. -/
theorem onContent : OnContent forms ofTree? := by
  rw [funext ofTree?_eq]
  exact onContent_record? fits_rules ruled_shape.names Draft.empty Draft.finish?

/-- The values of the fields in their order are an envelope, if they suit them. -/
theorem ofTree?_array (id kind event timestamp payload : Written) :
    ofTree? (.array [id, kind, event, timestamp, payload]) =
      id.string?.bind fun id => (Kind.ofTree? kind).bind fun kind =>
        event.optionalString?.bind fun event => (momentOf? timestamp).bind fun timestamp =>
          (payload.value? fieldDepth).map fun payload => ⟨id, kind, event, timestamp, payload⟩ := by
  simp [ofTree?, pairs?, fieldNames, ofPairs?, given, field, Option.map_eq_bind]

/-- **An envelope is read off its text as it is made of its tree.** -/
theorem toOption_ofText {w : Written} {s : String} (h : Spaced w.tokens (Utf8.ofText s)) :
    (ofText s).toOption = ofTree? w := by
  rw [ofTree?_eq]
  refine ruled_shape.toOption_readAll (fun _ _ _ => rfl) (fun draft rest => ?_) h
  dsimp only
  cases draft.finish? <;> rfl

/-! ## What is read -/

theorem exists_string_of_readKindName {kind : Kind} {input behind rest : Input}
    (hskip : skipSpace input = .char '"' :: behind) (h : readKindName input = .ok (kind, rest)) :
    ∃ k : List Piece, behind = closed k ++ rest := by
  rw [readKindName, hskip] at h
  obtain ⟨⟨name, behindName⟩, hname, h⟩ := bind_eq_ok_iff.1 h
  obtain ⟨k, hk⟩ := exists_pieces_of_readStringFrom hname
  dsimp only at h
  split at h
  · cases h
    exact ⟨k, hk⟩
  · cases h

theorem before_of_readUnit {input rest : Input} (h : readUnit input = .ok rest) :
    Before Written.null.tokens input rest := by
  rw [readUnit] at h
  split at h
  · next hskip =>
    refine .of_token ?_
    rw [hskip, eq_of_readWord h]
    rfl
  · cases h
  · exact absurd h (Record.refuse_ne_ok _ _ _)

theorem before_of_closeKind {input rest : Input} (h : closeKind input = .ok rest) :
    Before [Written.token ['}']] input rest := by
  rw [closeKind] at h
  split at h
  · next hskip =>
    cases h
    exact .of_token hskip
  · cases h
  · cases h

/-- What is read as a kind is a string, or an object with a null in it. -/
theorem exists_tree_of_readKind {depth : Nat} {kind : Kind} {input rest : Input}
    (h : readKind depth input = .ok (kind, rest)) : ∃ w : Written, Before w.tokens input rest := by
  rw [readKind] at h
  split at h
  · cases h
  · next behind hskip =>
    obtain ⟨k, rfl⟩ :=
      exists_string_of_readKindName (skipSpace_of_starts (by decide) behind) h
    exact ⟨.string k, .of_token hskip⟩
  · next behind hskip =>
    split at h
    · cases h
    · split at h
      · next next hquote =>
        obtain ⟨⟨kind', behindName⟩, hname, h⟩ := bind_eq_ok_iff.1 h
        obtain ⟨behindColon, hcolon, h⟩ := bind_eq_ok_iff.1 h
        obtain ⟨mid, hunit, h⟩ := bind_eq_ok_iff.1 h
        obtain ⟨_, hclose, h⟩ := bind_eq_ok_iff.1 h
        cases h
        obtain ⟨k, hk⟩ := exists_string_of_readKindName (skipSpace_of_starts (by decide) next) hname
        have hmember : Before (memberTokens (k, .null)) behind mid := by
          refine .of_skipSpace ?_
          rw [hquote]
          exact before_member hk hcolon (before_of_readUnit hunit)
        exact ⟨.object [(k, .null)],
          before_object hskip (hmember.trans (before_of_closeKind hclose))⟩
      · cases h
      · cases h
  · cases h

theorem exists_tree_of_readTimestamp {t : Timestamp} {input rest : Input}
    (h : readTimestamp input = .ok (t, rest)) : ∃ w : Written, Before w.tokens input rest := by
  rw [readTimestamp] at h
  split at h
  · next hskip =>
    obtain ⟨⟨s, behind⟩, hstring, h⟩ := bind_eq_ok_iff.1 h
    dsimp only at h
    split at h
    · cases h
      exact exists_tree_of_readString hskip hstring
    · cases h
  · cases h
  · obtain ⟨_, hrefuse, -⟩ := bind_eq_ok_iff.1 h
    exact absurd hrefuse (Record.refuse_ne_ok _ _ _)

/-- What the fields read is trees. -/
theorem readsTrees_shape (bound depth : Nat) : ∀ f ∈ shape.fields, f.ReadsTrees bound depth := by
  simp only [shape, List.forall_mem_cons]
  refine ⟨fun h => ?_, fun h => ?_, fun h => ?_, fun h => ?_, fun h => ?_, List.forall_mem_nil _⟩
  · obtain ⟨⟨v, _⟩, hread, h⟩ := bind_eq_ok_iff.1 h
    cases h
    exact exists_tree_of_readText hread
  · obtain ⟨⟨v, _⟩, hread, h⟩ := bind_eq_ok_iff.1 h
    cases h
    exact exists_tree_of_readKind hread
  · obtain ⟨⟨v, _⟩, hread, h⟩ := bind_eq_ok_iff.1 h
    cases h
    exact exists_tree_of_readOptionalText hread
  · obtain ⟨⟨v, _⟩, hread, h⟩ := bind_eq_ok_iff.1 h
    cases h
    exact exists_tree_of_readTimestamp hread
  · obtain ⟨⟨v, _⟩, hread, h⟩ := bind_eq_ok_iff.1 h
    cases h
    exact exists_tree_of_readValue hread

/-- **Every text that is read as an envelope has a tree.** -/
theorem exists_tree_of_ofText {m : Envelope} {s : String} (h : ofText s = .ok m) :
    ∃ w : Written, Spaced w.tokens (Utf8.ofText s) := by
  refine exists_tree_of_readAll (fun {bound depth input rest x} hread => ?_) h
  rw [read] at hread
  obtain ⟨⟨draft, _⟩, hdraft, hread⟩ := bind_eq_ok_iff.1 hread
  dsimp only at hread
  split at hread
  · cases hread
    exact exists_tree_of_read (fun depth => readsTrees_shape bound depth) hdraft
  · cases hread

end Envelope

end EventFeed
