import EventFeed.Files.Path
import EventFeed.System.OsError

/-!
# EventFeed.Files.Tree

Files and directories, as far as a listener deals with them.  A tree says
of every place what stands there; a place is the row of names that leads
to it from the root.  The view of a tree is `at?`, and each operation is
described by what it does to that view.

Paths are followed as the operating system follows them: every step must
lead to a directory, no name may be longer than 255 bytes, and no path
longer than 4095.  Moving one
file over another is a single change; nobody sees it half done.

Whatever fails here fails because of where a path leads.  Everything may be
read, written and moved, nothing is mounted or linked below the root, and there
is room for every text; a full disk, a limit on sizes or a missing permission is
not in the picture.
-/

namespace EventFeed

/-- What stands at a place. -/
inductive FileNode where
  | file (text : String)
  | directory
deriving Repr, DecidableEq, Inhabited

/-- A place in a tree. -/
abbrev FilePlace := List FileName

/-- A tree of files and directories below a root. -/
structure FileTree where
  nodes : List (FilePlace × FileNode)
deriving Repr, DecidableEq, Inhabited

namespace FileTree

/-- The tree that has a root only. -/
def empty : FileTree := ⟨[]⟩

/-- What stands at a place; the root is a directory. -/
def at? (t : FileTree) (p : FilePlace) : Option FileNode :=
  if p = [] then some .directory else t.nodes.lookup p

/-- The tree without what stands at a place. -/
def erase (t : FileTree) (p : FilePlace) : FileTree := ⟨t.nodes.filter fun n => n.1 ≠ p⟩

/-- The tree with something at a place. -/
def put (t : FileTree) (p : FilePlace) (n : FileNode) : FileTree :=
  ⟨(p, n) :: (t.erase p).nodes⟩

/-! ## The view -/

@[simp] theorem at?_nil (t : FileTree) : t.at? [] = some .directory := by simp [at?]

theorem lookup_filter (nodes : List (FilePlace × FileNode)) (p q : FilePlace) :
    (nodes.filter fun n => n.1 ≠ p).lookup q = if q = p then none else nodes.lookup q := by
  induction nodes with
  | nil => simp
  | cons n rest ih =>
    obtain ⟨k, v⟩ := n
    by_cases hk : k = p
    · subst hk
      rw [List.filter_cons_of_neg (by simp), ih]
      by_cases hq : q = k
      · simp [hq]
      · have : (q == k) = false := by simp [hq]
        simp [hq, List.lookup_cons, this]
    · rw [List.filter_cons_of_pos (by simp [hk]), List.lookup_cons, List.lookup_cons, ih]
      by_cases hq : q = k
      · subst hq
        simp [hk]
      · have : (q == k) = false := by simp [hq]
        simp [this]

/-- Whatever is put somewhere is there, and nothing else changes. -/
theorem at?_put (t : FileTree) {p : FilePlace} (hp : p ≠ []) (n : FileNode) (q : FilePlace) :
    (t.put p n).at? q = if q = p then some n else t.at? q := by
  by_cases hq : q = []
  · subst hq
    simp [Ne.symm hp]
  · simp only [at?, hq, if_false, put, erase, List.lookup_cons]
    rw [lookup_filter]
    by_cases h : q = p
    · simp [h]
    · have : (q == p) = false := by simp [h]
      simp [h, this]

/-- Whatever is taken away is gone, and nothing else changes. -/
theorem at?_erase (t : FileTree) {p : FilePlace} (hp : p ≠ []) (q : FilePlace) :
    (t.erase p).at? q = if q = p then none else t.at? q := by
  by_cases hq : q = []
  · subst hq
    simp [Ne.symm hp]
  · simp only [at?, hq, if_false, erase]
    rw [lookup_filter]

/-! ## Following a path -/

/-- The directory that the steps lead to from the directory `p`. -/
def follow (t : FileTree) (p : FilePlace) : List FileName → Except IoError FilePlace
  | [] => .ok p
  | s :: steps =>
    if s = [] ∨ s = FileName.here then t.follow p steps
    else if s = FileName.up then t.follow p.dropLast steps
    else if 255 < s.length then .error .nameTooLong
    else
      match t.at? (p ++ [s]) with
      | some .directory => t.follow (p ++ [s]) steps
      | some (.file _) => .error .notDirectory
      | none => .error .notFound

/-- A path that can be followed: it has no zero, is not empty and not too
long. -/
def usable (p : FilePath) : Except IoError FilePath :=
  if 0 ∈ p.bytes then .error .zeroByte
  else if p.bytes = [] then .error .notFound
  else if FilePath.maxLength < p.bytes.length then .error .nameTooLong
  else .ok p

/-- The directory that the last name of a path stands in. -/
def parentOf (t : FileTree) (p : FilePath) : Except IoError FilePlace := do
  t.follow [] (← usable p).steps

/-- The place of a name in a directory. -/
def placeIn (dir : FilePlace) (name : FileName) : Except IoError FilePlace :=
  if 255 < name.length then .error .nameTooLong else .ok (dir ++ [name])

/-- What stands where a path leads. -/
def find? (t : FileTree) (p : FilePath) : Option FileNode :=
  match t.parentOf p with
  | .error _ => none
  | .ok dir =>
    match t.follow dir [p.last] with
    | .ok _ => some .directory
    | .error _ => t.at? (dir ++ [p.last])

/-! ## Changes -/

/-- Write a file, over the one that stands there if there is one.  There is
room for it: a file that can be opened is written as a whole. -/
def write (t : FileTree) (p : FilePath) (text : String) : Except IoError FileTree := do
  let dir ← t.parentOf p
  if p.last = [] ∨ p.last = FileName.here ∨ p.last = FileName.up then .error .isDirectory
  let place ← placeIn dir p.last
  match t.at? place with
  | some .directory => .error .isDirectory
  | _ => return t.put place (.file text)

/-- Move a file to another path, over the file that stands there if there
is one.  Nobody is kept from it, whoever the files belong to. -/
def moveFile (t : FileTree) (source target : FilePath) : Except IoError FileTree := do
  let sourceDir ← t.parentOf source
  let targetDir ← t.parentOf target
  if target.last = FileName.here ∨ target.last = FileName.up then .error .busy
  let place ← placeIn sourceDir source.last
  match t.at? place with
  | some (.file text) => do
    if target.last = [] then .error .notDirectory
    let goal ← placeIn targetDir target.last
    match t.at? goal with
    | some .directory => .error .isDirectory
    | _ => return (t.erase place).put goal (.file text)
  | some .directory => .error .isDirectory
  | none => .error .notFound

/-- Make the directories that the steps lead through, unless they are
there. -/
def makeSteps (t : FileTree) (p : FilePlace) : List FileName → Except IoError FileTree
  | [] => .ok t
  | s :: steps =>
    if s = [] ∨ s = FileName.here then t.makeSteps p steps
    else if s = FileName.up then t.makeSteps p.dropLast steps
    else if 255 < s.length then .error .nameTooLong
    else
      match t.at? (p ++ [s]) with
      | some .directory => t.makeSteps (p ++ [s]) steps
      | some (.file _) => .error .notDirectory
      | none => (t.put (p ++ [s]) .directory).makeSteps (p ++ [s]) steps

/-- Make a directory and those on the way to it. -/
def makeDirectory (t : FileTree) (p : FilePath) : Except IoError FileTree := do
  let p ← usable p
  t.makeSteps [] (p.steps ++ [p.last])

/-- Take a directory away, with all that is in it. -/
def removeDirectory (t : FileTree) (p : FilePath) : Except IoError FileTree := do
  let p ← usable p
  let place ← t.follow [] (p.steps ++ [p.last])
  return ⟨t.nodes.filter fun n => !place.isPrefixOf n.1⟩

/-- All places in use but the root, with what stands there. -/
def places (t : FileTree) : List (FilePlace × FileNode) := t.nodes

end FileTree

end EventFeed
