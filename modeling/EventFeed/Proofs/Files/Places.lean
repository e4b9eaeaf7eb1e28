import EventFeed.Files.Tree
import EventFeed.Proofs.Json.Ordered

/-!
# EventFeed.Proofs.Files.Places

Where paths lead, and which of them can be written to.

There are no links in a tree, so a path that can be followed leads to the place
that its names spell (`FilePath.place`), whatever else is in the tree.  With this,
writing and moving are changes at known places: what they do is `FileTree.put` and
`FileTree.erase` there, and if they fail, nothing.

A file can be written if and only if the path leads to a directory, a file can stand
there, and its name is not too long (`FileTree.write_eq_ok_iff`); and a file can be
moved to another path if and only if it could be written there
(`FileTree.moveFile_eq_ok_iff`).
-/

namespace EventFeed

/-- The place that steps spell from another one. -/
def FilePlace.goTo (p : FilePlace) : List FileName → FilePlace
  | [] => p
  | s :: steps =>
    if s = [] ∨ s = FileName.here then goTo p steps
    else if s = FileName.up then goTo p.dropLast steps
    else goTo (p ++ [s]) steps

namespace FilePath

/-- The place that a path spells. -/
def place (p : FilePath) : FilePlace := FilePlace.goTo [] p.steps ++ [p.last]

/-- It is not the root. -/
theorem place_ne_nil (p : FilePath) : p.place ≠ [] := by simp [place]

/-- A path with more at its end spells another place. -/
theorem place_extend_ne (p : FilePath) {more : List UInt8} (h : more ≠ []) :
    (p.extend more).place ≠ p.place := by
  intro he
  have hlast : [p.last ++ more] = [p.last] := List.append_cancel_left he
  exact h (List.append_right_eq_self.1 (List.singleton_inj.1 hlast))

/-- The path can be followed: it has no zero, is not empty and not too long. -/
def Usable (p : FilePath) : Prop := 0 ∉ p.bytes ∧ p.bytes ≠ [] ∧ p.bytes.length ≤ maxLength

/-- The last name of a path ends its text. -/
theorem last_suffix (p : FilePath) : p.last <:+ p.bytes := by
  obtain ⟨steps, last⟩ := p
  induction steps with
  | nil => exact List.suffix_refl _
  | cons s steps ih =>
    obtain ⟨front, hfront⟩ := ih
    refine ⟨s ++ 0x2F :: front, ?_⟩
    rw [List.append_assoc, List.cons_append, hfront]
    rfl

/-- The last name of the path can be that of a file: it is not empty, and no step. -/
def NamesFile (p : FilePath) : Prop :=
  p.last ≠ [] ∧ p.last ≠ FileName.here ∧ p.last ≠ FileName.up

end FilePath

namespace FileTree

variable {t t' : FileTree} {p : FilePath}

/-! ## Following a path -/

/-- Whoever can follow steps gets to the place that they spell. -/
theorem follow_eq {p dir : FilePlace} {steps : List FileName} (h : t.follow p steps = .ok dir) :
    dir = p.goTo steps := by
  induction steps generalizing p with
  | nil => exact (Except.ok.inj h).symm
  | cons s steps ih =>
    rw [follow] at h
    rw [FilePlace.goTo]
    split
    · next hs =>
      rw [if_pos hs] at h
      exact ih h
    · next hs =>
      rw [if_neg hs] at h
      split
      · next hup =>
        rw [if_pos hup] at h
        exact ih h
      · next hup =>
        rw [if_neg hup] at h
        split at h
        · cases h
        split at h
        · exact ih h
        · cases h
        · cases h

/-- The path leads to a directory, up to its last name. -/
def Leads (t : FileTree) (p : FilePath) : Prop :=
  p.Usable ∧ t.follow [] p.steps = .ok (FilePlace.goTo [] p.steps)

/-- A file can stand where the path leads: its last name can be that of a file, and no
directory stands there. -/
def Admits (t : FileTree) (p : FilePath) : Prop :=
  p.NamesFile ∧ t.at? p.place ≠ some .directory

/-- A file can be written where the path leads. -/
structure Writable (t : FileTree) (p : FilePath) : Prop where
  leads : t.Leads p
  admits : t.Admits p
  length : p.last.length ≤ 255

/-- A file with a legal name can be written below the root, unless a directory has it. -/
theorem writable_of_isLegal {n : FileName} (h : n.IsLegal) (hfree : t.at? [n] ≠ some .directory) :
    t.Writable ⟨[], n⟩ := by
  obtain ⟨hempty, hlength, -, hzero, hsteps⟩ := h
  have hlong : n.length ≤ FilePath.maxLength := Nat.le_trans hlength (by decide)
  exact ⟨⟨⟨hzero, hempty, hlong⟩, rfl⟩, ⟨⟨hempty, hsteps⟩, hfree⟩, hlength⟩

theorem usable_eq_ok_iff {p' : FilePath} : usable p = .ok p' ↔ p.Usable ∧ p' = p := by
  rw [usable, FilePath.Usable]
  split
  · next h => simp [h]
  split
  · next h => simp [h]
  split
  · next h => simp [Nat.not_le.2 h]
  · next hzero hempty hlong => simp [hzero, hempty, Nat.not_lt.1 hlong, eq_comm]

theorem parentOf_eq_ok_iff {dir : FilePlace} :
    t.parentOf p = .ok dir ↔ t.Leads p ∧ dir = FilePlace.goTo [] p.steps := by
  rw [parentOf, Json.bind_eq_ok_iff]
  constructor
  · rintro ⟨p', husable, hfollow⟩
    obtain ⟨h, rfl⟩ := usable_eq_ok_iff.1 husable
    obtain rfl := follow_eq hfollow
    exact ⟨⟨h, hfollow⟩, rfl⟩
  · rintro ⟨⟨h, hfollow⟩, rfl⟩
    exact ⟨p, usable_eq_ok_iff.2 ⟨h, rfl⟩, hfollow⟩

theorem placeIn_eq_ok_iff {dir place : FilePlace} {name : FileName} :
    placeIn dir name = .ok place ↔ name.length ≤ 255 ∧ place = dir ++ [name] := by
  rw [placeIn]
  split
  · next h => simp [Nat.not_le.2 h]
  · next h => simp [Nat.not_lt.1 h, eq_comm]

/-- Whoever can follow steps can follow them wherever the same directories stand. -/
theorem follow_of_directories {p dir : FilePlace} {steps : List FileName}
    (hdirs : ∀ q, t.at? q = some .directory → t'.at? q = some .directory)
    (h : t.follow p steps = .ok dir) : t'.follow p steps = .ok dir := by
  induction steps generalizing p with
  | nil => exact h
  | cons s steps ih =>
    rw [follow] at h ⊢
    split
    · next hs =>
      rw [if_pos hs] at h
      exact ih h
    next hs =>
    rw [if_neg hs] at h
    split
    · next hup =>
      rw [if_pos hup] at h
      exact ih h
    next hup =>
    rw [if_neg hup] at h
    split
    · next hlong => rw [if_pos hlong] at h; cases h
    next hlong =>
    rw [if_neg hlong] at h
    split at h
    · next hdir =>
      rw [hdirs _ hdir]
      exact ih h
    · cases h
    · cases h

theorem Leads.of_directories (hdirs : ∀ q, t.at? q = some .directory → t'.at? q = some .directory)
    (h : t.Leads p) : t'.Leads p :=
  ⟨h.1, follow_of_directories hdirs h.2⟩

/-- A file that is put where no directory stood was not on the way. -/
theorem Leads.put {q : FilePlace} {text : String} (hq : q ≠ [])
    (hfree : t.at? q ≠ some .directory) (h : t.Leads p) : (t.put q (.file text)).Leads p := by
  refine h.of_directories fun r hr => ?_
  have hne : r ≠ q := fun he => hfree (he ▸ hr)
  rw [at?_put _ hq, if_neg hne]
  exact hr

/-! ## Changes -/

/-- **Writing** puts the text at the place of the path, if a file can be written there. -/
theorem write_eq_ok_iff {text : String} :
    t.write p text = .ok t' ↔ t.Writable p ∧ t' = t.put p.place (.file text) := by
  rw [write, Json.bind_eq_ok_iff]
  constructor
  · rintro ⟨dir, hdir, h⟩
    obtain ⟨hleads, rfl⟩ := parentOf_eq_ok_iff.1 hdir
    split at h
    · cases h
    next hnames =>
    obtain ⟨place, hplace, h⟩ := Json.bind_eq_ok_iff.1 h
    obtain ⟨hlength, rfl⟩ := placeIn_eq_ok_iff.1 hplace
    simp only [not_or] at hnames
    split at h
    · cases h
    · next hfree => exact ⟨⟨hleads, ⟨hnames, hfree⟩, hlength⟩, (Except.ok.inj h).symm⟩
  · rintro ⟨⟨hleads, ⟨⟨hlast, hsteps⟩, hfree⟩, hlength⟩, rfl⟩
    refine ⟨_, parentOf_eq_ok_iff.2 ⟨hleads, rfl⟩, ?_⟩
    rw [if_neg (not_or.2 ⟨hlast, not_or.2 hsteps⟩)]
    refine Json.bind_eq_ok_iff.2 ⟨_, placeIn_eq_ok_iff.2 ⟨hlength, rfl⟩, ?_⟩
    split
    · next hdir => exact absurd hdir hfree
    · rfl

/-- Where the path leads to a directory and ends in a name for a file, only the length of
that name and a directory of that name keep the file from being written. -/
theorem write_of_leads {text : String} (hleads : t.Leads p) (hnames : p.NamesFile) :
    t.write p text =
      if 255 < p.last.length then .error .nameTooLong
      else if t.at? p.place = some .directory then .error .isDirectory
      else .ok (t.put p.place (.file text)) := by
  split
  · next hlong =>
    simp only [write, parentOf_eq_ok_iff.2 ⟨hleads, rfl⟩, bind, Except.bind,
      if_neg (not_or.2 ⟨hnames.1, not_or.2 hnames.2⟩), placeIn, if_pos hlong]
  next hlong =>
  split
  · next hdir =>
    rw [FilePath.place] at hdir
    simp only [write, parentOf_eq_ok_iff.2 ⟨hleads, rfl⟩, bind, Except.bind,
      if_neg (not_or.2 ⟨hnames.1, not_or.2 hnames.2⟩), placeIn, if_neg hlong, hdir]
  · next hfree => exact write_eq_ok_iff.2 ⟨⟨hleads, ⟨hnames, hfree⟩, Nat.not_lt.1 hlong⟩, rfl⟩

/-- A path that is too long leads nowhere. -/
theorem write_of_long {text : String} (hzero : 0 ∉ p.bytes)
    (hlong : FilePath.maxLength < p.bytes.length) : t.write p text = .error .nameTooLong := by
  have hempty : p.bytes ≠ [] := fun he => by simp [he] at hlong
  have hunusable : usable p = .error .nameTooLong := by
    rw [usable, if_neg hzero, if_neg hempty, if_pos hlong]
  simp only [write, parentOf, hunusable, bind, Except.bind]

/-- **Moving** a file takes it from its place and puts it at another one, if a file can
be written there. -/
theorem moveFile_eq_ok_iff {source target : FilePath} :
    t.moveFile source target = .ok t' ↔
      (t.Leads source ∧ source.last.length ≤ 255) ∧ t.Writable target ∧
      ∃ text, t.at? source.place = some (.file text) ∧
        t' = (t.erase source.place).put target.place (.file text) := by
  constructor
  · intro h
    obtain ⟨sourceDir, hsource, h⟩ := Json.bind_eq_ok_iff.1 h
    obtain ⟨targetDir, htarget, h⟩ := Json.bind_eq_ok_iff.1 h
    obtain ⟨hleads, rfl⟩ := parentOf_eq_ok_iff.1 hsource
    obtain ⟨hgoal, rfl⟩ := parentOf_eq_ok_iff.1 htarget
    extract_lets move at h
    split at h
    · cases h
    next hsteps =>
    obtain ⟨place, hplace, h⟩ := Json.bind_eq_ok_iff.1 h
    obtain ⟨hlength, rfl⟩ := placeIn_eq_ok_iff.1 hplace
    split at h
    · next text htext =>
      split at h
      · cases h
      next hlast =>
      obtain ⟨goal, hplaced, h⟩ := Json.bind_eq_ok_iff.1 h
      obtain ⟨hgoalLength, rfl⟩ := placeIn_eq_ok_iff.1 hplaced
      split at h
      · cases h
      · next hfree =>
        exact ⟨⟨hleads, hlength⟩, ⟨hgoal, ⟨⟨hlast, not_or.1 hsteps⟩, hfree⟩, hgoalLength⟩, text,
          htext, (Except.ok.inj h).symm⟩
    · cases h
    · cases h
  · rintro ⟨⟨hleads, hlength⟩, ⟨hgoal, ⟨⟨hlast, hsteps⟩, hfree⟩, hgoalLength⟩, text, htext, rfl⟩
    refine Json.bind_eq_ok_iff.2 ⟨_, parentOf_eq_ok_iff.2 ⟨hleads, rfl⟩, ?_⟩
    refine Json.bind_eq_ok_iff.2 ⟨_, parentOf_eq_ok_iff.2 ⟨hgoal, rfl⟩, ?_⟩
    rw [if_neg (not_or.2 hsteps)]
    refine Json.bind_eq_ok_iff.2 ⟨_, placeIn_eq_ok_iff.2 ⟨hlength, rfl⟩, ?_⟩
    rw [FilePath.place] at htext
    rw [htext]
    dsimp only
    rw [if_neg hlast]
    refine Json.bind_eq_ok_iff.2 ⟨_, placeIn_eq_ok_iff.2 ⟨hgoalLength, rfl⟩, ?_⟩
    split
    · next hdir => exact absurd hdir hfree
    · rfl

end FileTree

end EventFeed
