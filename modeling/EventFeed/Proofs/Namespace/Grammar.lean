import EventFeed.Namespace
import EventFeed.Proofs.Text.Numeral

/-!
# EventFeed.Proofs.Namespace.Grammar

The grammar of namespaces: a path is a slash and one or more ASCII letters, digits,
hyphens and underscores (`Namespace.IsPath`).  The paths of this grammar are those
of namespaces (`Namespace.isPath_iff`); they are read as these, and whatever else is
read is refused as it is (`Namespace.parse_of_astray`).
-/

namespace EventFeed

/-- The characters of a segment, by their ranges. -/
theorem isSegmentChar_iff {c : Char} : isSegmentChar c = true ↔
    ('A' ≤ c ∧ c ≤ 'Z') ∨ ('a' ≤ c ∧ c ≤ 'z') ∨ ('0' ≤ c ∧ c ≤ '9') ∨ c = '_' ∨ c = '-' := by
  simp only [isSegmentChar, Bool.or_eq_true, beq_iff_eq, isAlphanum_iff, or_assoc]

namespace Namespace

/-- No character of a namespace means anything in a path. -/
theorem plain (n : Namespace) :
    ∀ c ∈ n.segment.toList, c ≠ '/' ∧ c ≠ '?' ∧ c ≠ '#' ∧ c ≠ '%' := by
  intro c hc
  have hsegment := List.all_eq_true.1 n.valid.2 c hc
  refine ⟨?_, ?_, ?_, ?_⟩
  all_goals
    rintro rfl
    exact absurd hsegment (by decide)

/-- The characters of a namespace are ASCII. -/
theorem ascii (n : Namespace) : ∀ c ∈ n.segment.toList, c.toNat < 0x80 := by
  intro c hc
  have hbelow {d : Char} (hd : d.toNat < 0x80) (hle : c ≤ d) : c.toNat < 0x80 :=
    Nat.lt_of_le_of_lt hle hd
  rcases isSegmentChar_iff.1 (List.all_eq_true.1 n.valid.2 c hc) with
    ⟨-, hle⟩ | ⟨-, hle⟩ | ⟨-, hle⟩ | rfl | rfl
  · exact hbelow (by decide) hle
  · exact hbelow (by decide) hle
  · exact hbelow (by decide) hle
  · decide
  · decide

/-! ## Paths -/

/-- The path of a namespace: a slash and one or more ASCII letters, digits, hyphens
and underscores, and nothing else. -/
def IsPath (s : String) : Prop :=
  ∃ g : List Char, s.toList = '/' :: g ∧ g ≠ [] ∧ ∀ c ∈ g,
    ('A' ≤ c ∧ c ≤ 'Z') ∨ ('a' ≤ c ∧ c ≤ 'z') ∨ ('0' ≤ c ∧ c ≤ '9') ∨ c = '_' ∨ c = '-'

theorem isSegment_iff {g : String} : IsSegment g ↔ IsPath ("/" ++ g) := by
  have hchars : ("/" ++ g).toList = '/' :: g.toList := by simp
  rw [IsSegment, List.all_eq_true, IsPath, hchars]
  simp only [isSegmentChar_iff]
  constructor
  · rintro ⟨hne, hall⟩
    exact ⟨_, rfl, hne, hall⟩
  · rintro ⟨_, h, hne, hall⟩
    cases h
    exact ⟨hne, hall⟩

/-- **The paths of the grammar** are those that namespaces have. -/
theorem isPath_iff {s : String} : IsPath s ↔ ∃ n : Namespace, n.path = s := by
  constructor
  · intro h
    have ⟨g, hs, _⟩ := h
    have hpath : "/" ++ String.ofList g = s := String.toList_inj.1 (by simp [hs])
    exact ⟨⟨String.ofList g, isSegment_iff.2 (hpath ▸ h)⟩, hpath⟩
  · rintro ⟨n, rfl⟩
    exact isSegment_iff.1 n.valid

/-- What is no path of a namespace is refused as it is. -/
theorem parse_of_astray {path : String} (h : ∀ n : Namespace, n.path ≠ path) :
    parse path = .error (.invalidNamespace path) := by
  rw [parse]
  split
  · next segment hchars =>
    have hpath : "/" ++ String.ofList segment = path := String.toList_inj.1 (by simp [hchars])
    rw [ofSegment]
    split
    · next hvalid => exact absurd hpath (h ⟨_, hvalid⟩)
    · rw [hpath]
  · rfl

/-- Namespaces are read off their paths. -/
theorem parse_eq_ok_iff {s : String} {n : Namespace} : parse s = .ok n ↔ n.path = s := by
  constructor
  · exact path_of_parse
  · rintro rfl
    exact parse_path n

end Namespace

end EventFeed
