import EventFeed.Gateway.Emit
import EventFeed.Proofs.Json.Content

/-!
# EventFeed.Proofs.Gateway.Content

What requests to publish are made of.  A request is read off a tree
(`EmitRequest.ofTree?`) field by field, whatever the body is in which the tree is
written (`EmitRequest.toOption_ofBytes`), and only its content decides what it is
(`EmitRequest.onContent`).
-/

namespace EventFeed

namespace EmitRequest

open Json
open Json.Written (pairs? given field string?)

/-! ## Trees -/

/-- The names of the fields, in their order. -/
def fieldNames : List String := ["namespace", "event", "data"]

/-- The request that is made of named values. -/
def ofPairs? (ps : List (String × Written)) : Option EmitRequest := do
  let path ← field string? none (given "namespace" ps)
  let event ← field string? none (given "event" ps)
  let data ← field (Written.value? fieldDepth) (some .null) (given "data" ps)
  return ⟨path, event, data⟩

/-- The request that a tree stands for. -/
def ofTree? (w : Written) : Option EmitRequest := (w.pairs? fieldNames).bind ofPairs?

/-- The fields of a request: which values suit them, and which are as good as
none. -/
def forms : List FieldForm := [
  ⟨"namespace", fun w => w.string?.isSome, none⟩,
  ⟨"event", fun w => w.string?.isSome, none⟩,
  ⟨"data", fun w => (w.value? fieldDepth).isSome, some .null⟩]

/-! ## Rules -/

/-- The rules of the fields. -/
def rules : List (Rule Draft) := [
  .of "namespace" (·.path.isSome) (fun v d => { d with path := some v }) string? none,
  .of "event" (·.event.isSome) (fun v d => { d with event := some v }) string? none,
  .of "data" (·.data.isSome) (fun v d => { d with data := some v }) (Written.value? fieldDepth)
    (some .null)]

/-- Every rule fits the form of its field. -/
theorem fits_rules : List.Forall₂ Rule.Fits forms rules :=
  .cons (Rule.fits_of _ _ _ rfl) <| .cons (Rule.fits_of _ _ _ rfl) <|
    .cons (Rule.fits_of _ _ _ (by rw [Option.bind_some, Written.value?])) .nil

theorem ofTree?_eq (w : Written) :
    ofTree? w = (record? rules Draft.empty w).bind Draft.finish? := by
  have hpairs (ps : List (String × Written)) :
      ofPairs? ps = (setAll rules ps Draft.empty).bind Draft.finish? := by
    rw [ofPairs?, rules]
    simp only [setAll_of]
    simp only [setAll, Option.bind_assoc, bind, pure]
    rfl
  rw [ofTree?, record?, Option.bind_assoc]
  exact congrArg _ (funext hpairs)

/-! ## Reading -/

/-- The fields follow rules of their own. -/
theorem ruled_shape : Ruled rules shape Draft.empty fieldDepth where
  rules_ne := List.cons_ne_nil _ _
  governed bound := by
    refine .cons ?_ (.cons ?_ (.cons ?_ .nil))
    · exact Rule.governs_of rfl rfl (fun _ => rfl) (fun _ _ => rfl) fun _ => gives_readText _
    · exact Rule.governs_of rfl rfl (fun _ => rfl) (fun _ _ => rfl) fun _ => gives_readText _
    · exact Rule.governs_of rfl rfl (fun _ => rfl) (fun _ _ => rfl) fun h => gives_readValue h _
  fills := by
    simp only [rules, List.forall_mem_cons]
    refine ⟨?_, ?_, ?_, List.forall_mem_nil _⟩ <;> exact Rule.fills_of (fun _ _ => rfl) _ _
  apart := by
    simp only [rules, List.pairwise_cons, List.forall_mem_cons, List.not_mem_nil, false_implies,
      implies_true, and_true, List.Pairwise.nil]
    refine ⟨⟨?_, ?_⟩, ?_⟩ <;>
      exact Rule.apart_of (by decide) (by intros; rfl) (by intros; rfl) (by intros; rfl) _ _ _ _
  unfilled := by simp [rules, Rule.of, Draft.empty]

/-- **Only the content of a body decides** which request it is read as. -/
theorem onContent : OnContent forms ofTree? := by
  rw [funext ofTree?_eq]
  exact onContent_record? fits_rules ruled_shape.names Draft.empty Draft.finish?

/-- The values of the fields in their order are a request, if they suit them. -/
theorem ofTree?_array (path event data : Written) :
    ofTree? (.array [path, event, data]) =
      path.string?.bind fun path => event.string?.bind fun event =>
        (data.value? fieldDepth).map fun data => ⟨path, event, data⟩ := by
  simp only [Option.map_eq_bind, Function.comp_def]
  simp [ofTree?, pairs?, fieldNames, ofPairs?, given, field]

/-- **A request is read off its body as it is made of its tree.** -/
theorem toOption_ofBytes {w : Written} {body : List UInt8}
    (h : Spaced w.tokens (Utf8.symbols body)) : (ofBytes body).toOption = ofTree? w := by
  rw [ofTree?_eq]
  refine ruled_shape.toOption_readAll (fun _ _ _ => rfl) (fun draft rest => ?_) h
  dsimp only
  cases draft.finish? <;> rfl

end EmitRequest

end EventFeed
