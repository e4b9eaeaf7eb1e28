import EventFeed.Text.Utf8

/-!
# EventFeed.Files.Path

Paths.  A path is a row of names with slashes between them, and a name is
a string of bytes.  The last name is kept apart from the steps that lead
to it, because that is where new files are made: a text added at the end
of a path always adds to its last name, never to its steps.

The last name is empty if the path ends in a slash.
-/

namespace EventFeed

/-- The name of a file or directory, or a step that stands for one. -/
abbrev FileName := List UInt8

namespace FileName

/-- The step that stays where it is. -/
def here : FileName := [0x2E]

/-- The step that leaves a directory. -/
def up : FileName := [0x2E, 0x2E]

/-- The names that can be given to a file: not empty, at most 255 bytes
long, without slash and zero, and no step. -/
def IsLegal (n : FileName) : Prop :=
  n ≠ [] ∧ n.length ≤ 255 ∧ 0x2F ∉ n ∧ 0 ∉ n ∧ n ≠ here ∧ n ≠ up

instance (n : FileName) : Decidable n.IsLegal :=
  inferInstanceAs (Decidable (_ ∧ _ ∧ _ ∧ _ ∧ _ ∧ _))

end FileName

/-- A path: the steps that lead to its last name, and that name. -/
structure FilePath where
  steps : List FileName
  last : FileName
deriving Repr, DecidableEq, Inhabited

namespace FilePath

/-- The path that the bytes spell. -/
def ofBytes : List UInt8 → FilePath
  | [] => ⟨[], []⟩
  | b :: rest =>
    let p := ofBytes rest
    if b = 0x2F then ⟨[] :: p.steps, p.last⟩
    else
      match p.steps with
      | [] => ⟨[], b :: p.last⟩
      | s :: steps => ⟨(b :: s) :: steps, p.last⟩

/-- The path that a text spells. -/
def ofText (s : String) : FilePath := ofBytes (Utf8.encode s)

/-- The bytes that spell the path. -/
def bytes (p : FilePath) : List UInt8 :=
  p.steps.foldr (fun s rest => s ++ 0x2F :: rest) p.last

/-- The most bytes that a path can have. -/
def maxLength : Nat := 4095

/-- The names of a path that lead anywhere: those that are empty or stay
where they are lead nowhere. -/
def names (p : FilePath) : List FileName :=
  (p.steps ++ [p.last]).filter fun s => s ≠ [] ∧ s ≠ FileName.here

/-- The names that lead to the directory which the text of a path stands
in; a path without names stands in none. -/
def parent? (p : FilePath) : Option (List FileName) :=
  if p.names = [] then none else some p.names.dropLast

/-- The path with bytes added at its end. -/
def extend (p : FilePath) (more : List UInt8) : FilePath := ⟨p.steps, p.last ++ more⟩

/-- What is added at the end of a path adds to its text. -/
theorem bytes_extend (p : FilePath) (more : List UInt8) :
    (p.extend more).bytes = p.bytes ++ more := by
  obtain ⟨steps, last⟩ := p
  induction steps with
  | nil => rfl
  | cons s steps ih => simp_all [bytes, extend]

end FilePath

end EventFeed
