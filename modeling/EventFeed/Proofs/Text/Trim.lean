import EventFeed.Text.Blank
import Mathlib.Data.List.DropRight

/-!
# EventFeed.Proofs.Text.Trim

What trimming leaves of a text: nothing of blanks only, and otherwise something
that begins and ends with a visible character.  A text that does so already is left as
it is, and no other text is (`trimText_eq_self_iff`).
-/

namespace EventFeed

theorem trimEnd_eq (s : List Char) : trimEnd s = s.rdropWhile isBlank := rfl

/-- What is left is empty or starts with a visible character. -/
theorem head_trim (s : List Char) : ∀ c ∈ (trim s).head?, isBlank c = false := by
  intro c hc
  obtain ⟨rest, hrest⟩ := List.rdropWhile_prefix isBlank (trimStart s)
  refine head_trimStart s c ?_
  rw [← hrest, ← trimEnd_eq, ← trim, List.head?_append, hc]
  rfl

/-- It is empty or ends with one. -/
theorem getLast_trim (s : List Char) : ∀ c ∈ (trim s).getLast?, isBlank c = false := by
  intro c hc
  rw [trim, trimEnd, List.getLast?_reverse] at hc
  exact head_trimStart _ c hc

/-- **It is empty of blanks only.** -/
theorem trim_eq_nil_iff {s : List Char} : trim s = [] ↔ ∀ c ∈ s, isBlank c = true := by
  rw [← List.dropWhile_eq_nil_iff, trim, trimEnd_eq, List.rdropWhile_eq_nil_iff]
  refine ⟨fun h => ?_, fun h => by simp [trimStart, h]⟩
  cases hs : trimStart s with
  | nil => exact hs
  | cons c rest =>
    have hvisible := head_trimStart s c (by rw [hs]; rfl)
    rw [h c (by simp [hs])] at hvisible
    cases hvisible

theorem trimText_eq_empty_iff {s : String} :
    trimText s = "" ↔ ∀ c ∈ s.toList, isBlank c = true := by
  rw [← trim_eq_nil_iff, trimText, ← String.toList_inj, String.toList_ofList]
  rfl

/-- There is no blank at either end. -/
def HasVisibleEnds (s : List Char) : Prop :=
  (∀ c ∈ s.head?, isBlank c = false) ∧ ∀ c ∈ s.getLast?, isBlank c = false

theorem hasVisibleEnds_trim (s : List Char) : HasVisibleEnds (trim s) :=
  ⟨head_trim s, getLast_trim s⟩

/-- There is nothing to drop in front of a visible character. -/
theorem trimStart_eq_self {s : List Char} (h : ∀ c ∈ s.head?, isBlank c = false) :
    trimStart s = s := by
  cases s with
  | nil => rfl
  | cons c rest => rw [trimStart, List.dropWhile_cons, h c rfl, if_neg Bool.false_ne_true]

/-- **What trimming leaves as it is.** -/
theorem trim_eq_self_iff {s : List Char} : trim s = s ↔ HasVisibleEnds s := by
  constructor
  · intro h
    rw [← h]
    exact hasVisibleEnds_trim s
  · rintro ⟨hhead, hlast⟩
    have hback : trimStart s.reverse = s.reverse :=
      trimStart_eq_self (by rwa [List.head?_reverse])
    rw [trim, trimStart_eq_self hhead, trimEnd, ← trimStart, hback, List.reverse_reverse]

instance (s : List Char) : Decidable (HasVisibleEnds s) := decidable_of_iff _ trim_eq_self_iff

theorem trimText_eq_self_iff {s : String} : trimText s = s ↔ HasVisibleEnds s.toList := by
  rw [← trim_eq_self_iff, trimText, ← String.toList_inj, String.toList_ofList]

end EventFeed
