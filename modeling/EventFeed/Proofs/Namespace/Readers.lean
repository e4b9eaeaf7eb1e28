import EventFeed.Proofs.Json.Entries
import EventFeed.Proofs.Json.Grammar
import EventFeed.Proofs.Json.Text
import EventFeed.Proofs.Namespace.Grammar

/-!
# EventFeed.Proofs.Namespace.Readers

Namespaces are read by one grammar, wherever they come from (`Namespace.readers_agree`).

Segments and texts are read as the paths that they are part of or are.  A JSON text is
read if it is that of a string, however this is spelled (`Json.Spells`), and as the
namespace of the path that the string is (`Namespace.ofJson_eq_ok_iff`).  The path is
part of every refusal.
-/

namespace EventFeed

namespace Json

/-- The text is a JSON string that stands for `s`: pieces in quotes, escaped or not, and
white space around them. -/
def Spells (text s : String) : Prop :=
  ∃ ps, Spaced (Written.string ps).tokens (Utf8.ofText text) ∧ text? ps = some s

/-- What is written of a string spells it. -/
theorem spells_text (s : String) : Spells (Json.string s).text s := by
  have hread := readString_escaped s []
  obtain ⟨ps, hclosed⟩ := exists_pieces_of_readStringFrom hread
  have hinput : Utf8.ofText (Json.string s).text = Written.quote ps := by
    have hquote := map_stringChars s []
    rw [hclosed] at hquote
    simpa [Utf8.ofText, Json.text, Json.chars, Written.quote] using hquote
  refine ⟨ps, ?_, ?_⟩
  · rw [hinput]
    have hspaced := Spaced.next (List.forall_mem_nil _) (Written.quote ps)
      (.done (List.forall_mem_nil _))
    simpa [Written.tokens] using hspaced
  · have hgives := gives_readString ps (.done (List.forall_mem_nil _))
    rw [← hclosed, hread] at hgives
    generalize text? ps = v at hgives
    cases hgives
    rfl

/-- A string is read off the texts that spell it, and only white space is left. -/
theorem Spells.readText {text s : String} (h : Spells text s) :
    ∃ rest, readText (Utf8.ofText text) = .ok (s, rest) ∧ Spaced [] rest := by
  obtain ⟨ps, hspaced, htext⟩ := h
  have hgives : Gives [] (some s) (Json.readText (Utf8.ofText text)) := by
    rw [← htext]
    refine gives_readText (.string ps) [] _ ?_ fun t ht => by cases ht
    rwa [List.append_nil]
  cases hread : Json.readText (Utf8.ofText text) with
  | error f =>
    rw [hread] at hgives
    cases hgives
  | ok got =>
    rw [hread] at hgives
    cases hgives with
    | read left => exact ⟨_, rfl, left⟩

end Json

namespace Namespace

variable {text s : String} {n : Namespace} {e : FeedError}

/-! ## JSON -/

/-- Wherever a value stands, a namespace is read if that is a string and the string is
its path. -/
theorem gives_readJson (w : Json.Written) (bound depth : Nat) :
    Json.GivesOn (readJson bound depth) (w.string?.bind fun s => (parse s).toOption) w := by
  intro more input h hends
  refine (Json.gives_readText w more input h hends).bind fun s rest hrest => ?_
  dsimp only
  rw [ofString]
  cases parse s with
  | ok n => exact .read hrest
  | error e => exact .refused

theorem exists_tree_of_readJson {bound depth : Nat} {input rest : Input}
    (h : readJson bound depth input = .ok (n, rest)) :
    ∃ w : Json.Written, Json.Before w.tokens input rest := by
  obtain ⟨⟨s, behind⟩, htext, h⟩ := Json.bind_eq_ok_iff.1 h
  dsimp only at h
  split at h
  · cases h
    exact Json.exists_tree_of_readText htext
  · cases h

/-- **A JSON text is read as a namespace** if and only if it spells the path of it. -/
theorem ofJson_eq_ok_iff : ofJson text = .ok n ↔ ∃ s, Json.Spells text s ∧ parse s = .ok n := by
  have hvalue {w : Json.Written} (hw : Json.Spaced w.tokens (Utf8.ofText text)) :
      ofJson text = .ok n ↔ ∃ s, w.string? = some s ∧ parse s = .ok n := by
    have hread : (Json.readAll readJson (Utf8.ofText text)).toOption = _ :=
      Json.toOption_readAll (fun {bound} _ => gives_readJson w bound Json.maxDepth) hw
    rw [← Json.toOption_eq_some_iff, ofJson, hread, Option.bind_eq_some_iff]
    simp only [Json.toOption_eq_some_iff]
  constructor
  · intro h
    obtain ⟨w, hw⟩ := Json.exists_tree_of_readAll exists_tree_of_readJson h
    obtain ⟨s, hstring, hparse⟩ := (hvalue hw).1 h
    cases w with
    | string ps => exact ⟨s, ⟨ps, hw, hstring⟩, hparse⟩
    | null | bool | number | array | object => cases hstring
  · rintro ⟨s, ⟨ps, hspaced, htext⟩, hparse⟩
    exact (hvalue hspaced).2 ⟨s, htext, hparse⟩

/-- A string that is no path is refused, and the refusal shows it. -/
theorem ofJson_of_astray (h : Json.Spells text s) (hastray : parse s = .error e) :
    ∃ behind, ofJson text = .error ⟨.invalidValue e.message, behind, []⟩ := by
  obtain ⟨rest, hread, -⟩ := h.readText
  rw [ofJson, Json.readAll, readJson, hread]
  simp only [bind, Except.bind, ofString, hastray]
  exact ⟨_, rfl⟩

/-- **What is written of a namespace** is read as this namespace. -/
theorem ofJson_json (n : Namespace) : ofJson n.json = .ok n :=
  ofJson_eq_ok_iff.2 ⟨n.path, Json.spells_text n.path, parse_path n⟩

/-! ## All readers -/

/-- **One grammar for all readers.**

A text is read as a namespace if and only if it is a slash and one or more ASCII
letters, digits, hyphens and underscores; conversions read it alike, the namespace has
it for its path, and if it is refused, the refusal shows it.  A segment is read as the
path that has it behind its slash.

A JSON text is read as a namespace if and only if it is a string, in whatever spelling,
that is read as this namespace; if the string is refused, so is the text, with the same
message.  What is written of a namespace is read as it. -/
theorem readers_agree :
    (∀ s, (ofText s = parse s ∧ ofString s = parse s) ∧
      ((∃ n, parse s = .ok n) ↔ IsPath s) ∧
      (∀ n, parse s = .ok n → n.path = s) ∧
      ∀ e, parse s = .error e → e = .invalidNamespace s) ∧
    (∀ g, ofSegment g = parse ("/" ++ g)) ∧
    (∀ text n, ofJson text = .ok n ↔ ∃ s, Json.Spells text s ∧ parse s = .ok n) ∧
    (∀ text s e, Json.Spells text s → parse s = .error e →
      ∃ behind, ofJson text = .error ⟨.invalidValue e.message, behind, []⟩) ∧
    ∀ n, ofJson n.json = .ok n := by
  refine ⟨fun s => ⟨⟨rfl, rfl⟩, ?_, fun n => path_of_parse, fun e h => ?_⟩, ofSegment_eq_parse,
    fun _ _ => ofJson_eq_ok_iff, fun _ _ _ => ofJson_of_astray, ofJson_json⟩
  · simp only [isPath_iff, parse_eq_ok_iff]
  · by_cases hpath : ∃ n : Namespace, n.path = s
    · obtain ⟨n, rfl⟩ := hpath
      rw [parse_path] at h
      cases h
    · rw [parse_of_astray fun n hn => hpath ⟨n, hn⟩] at h
      exact (Except.error.inj h).symm

/-- A path may be spelled with escapes and have white space around it. -/
theorem readers_agree_of_escaped :
    ofJson " \"\\u002ftest\" " = .ok .standard ∧ Json.Spells " \"\\u002ftest\" " "/test" := by
  have haccepted : ofJson " \"\\u002ftest\" " = .ok .standard := by decide +kernel
  obtain ⟨htexts, -, hjson, -, -⟩ := readers_agree
  obtain ⟨s, hspells, hparse⟩ := (hjson _ _).1 haccepted
  obtain ⟨-, -, hpath, -⟩ := htexts s
  obtain rfl := hpath _ hparse
  exact ⟨haccepted, hspells⟩

end Namespace

end EventFeed
