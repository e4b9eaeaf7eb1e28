import EventFeed.Proofs.Listener.FileRegions

/-!
# EventFeed.Proofs.Listener.Leftovers

What is left when a region in a file fails to show a text.

The staging file stands beside the target and has a longer name.  So once it is
written, only one thing can keep it from being moved over the target: that no file
can stand there, because the path does not end in the name of a file or because it
leads to a directory (`Region.exists_moveFile_iff`).  Then it is left where it is, for
nothing takes it away.  If the region fails for any other reason, it has not written
anything (`Region.file_error_leaves`).

All this is about files that may be read, written and moved, on a disk that has room
for them (`EventFeed.Files.Tree`).
-/

namespace EventFeed

namespace Region

variable {id : Uuid} {target : FilePath} {text : String} {t t' t₁ : FileTree} {e : IoError}

/-- Where the staging file can be written, so can its target, if a file can stand
there. -/
theorem writable_target (h : t.Writable (staging id target)) (hadmits : t.Admits target) :
    t.Writable target := by
  obtain ⟨⟨⟨hzero, -, hlong⟩, hfollow⟩, -, hlength⟩ := h
  rw [staging, FilePath.bytes_extend] at hzero hlong
  rw [staging, FilePath.extend, List.length_append] at hlength
  rw [List.length_append] at hlong
  refine ⟨⟨⟨fun h => hzero (List.mem_append_left _ h), fun hempty => ?_, by omega⟩, hfollow⟩,
    hadmits, by omega⟩
  exact hadmits.1.1 (List.suffix_nil.1 (hempty ▸ target.last_suffix))

/-- **Once the staging file is written**, it can be moved over its target if and only
if a file can stand there. -/
theorem exists_moveFile_iff (h : t.write (staging id target) text = .ok t₁) :
    (∃ t₂, t₁.moveFile (staging id target) target = .ok t₂) ↔ t.Admits target := by
  obtain ⟨hwritable, rfl⟩ := FileTree.write_eq_ok_iff.1 h
  have hput := (staging id target).place_ne_nil
  have hfree := hwritable.admits.2
  have hadmits : (t.put (staging id target).place (.file text)).Admits target ↔
      t.Admits target := by
    rw [FileTree.Admits, FileTree.at?_put _ hput, if_neg (place_staging_ne id target).symm]
    rfl
  constructor
  · rintro ⟨t₂, hmove⟩
    obtain ⟨-, htarget, -⟩ := FileTree.moveFile_eq_ok_iff.1 hmove
    exact hadmits.1 htarget.admits
  · intro htarget
    have hgoal := writable_target hwritable htarget
    refine ⟨_, FileTree.moveFile_eq_ok_iff.2 ⟨⟨hwritable.leads.put hput hfree, hwritable.length⟩,
      ⟨hgoal.leads.put hput hfree, hadmits.2 htarget, hgoal.length⟩, text, ?_, rfl⟩⟩
    rw [FileTree.at?_put _ hput, if_pos rfl]

/-- **If the text is not shown**, either nothing could be written and nothing has changed,
or no file can stand at the target and the staging file is left. -/
theorem file_error_cases (h : file id target text t = (.error e, t')) :
    (t.write (staging id target) text = .error e ∧ t' = t) ∨
    ((∃ t₁, t.write (staging id target) text = .ok t₁) ∧ ¬ t.Admits target ∧
      t' = t.put (staging id target).place (.file text)) := by
  rw [file] at h
  split at h
  · next hwrite =>
    cases h
    exact .inl ⟨hwrite, rfl⟩
  next t₁ hwrite =>
  split at h
  · next hmove =>
    cases h
    obtain ⟨-, hput⟩ := FileTree.write_eq_ok_iff.1 hwrite
    refine .inr ⟨⟨_, hwrite⟩, fun hadmits => ?_, hput⟩
    obtain ⟨t₂, hmoved⟩ := (exists_moveFile_iff hwrite).2 hadmits
    cases hmove.symm.trans hmoved
  · cases h

/-- **What a failure leaves**, where there is room for every text and no permission is
missing.

If a text is not shown, nothing but the staging file has changed.  That is as it was,
too, and so is the whole tree, if the staging file could not be written, and whenever a
file can stand at the target.  Only if no file can stand there, because its path does
not end in the name of a file or a directory stands there, but the staging file could
be written, is that left with the text in it. -/
theorem file_error_leaves (h : file id target text t = (.error e, t')) :
    (∀ q, q ≠ (staging id target).place → t'.at? q = t.at? q) ∧
    (t.Admits target → t' = t) ∧
    ((t.write (staging id target) text = .error e ∧ t' = t) ∨
      ((∃ t₁, t.write (staging id target) text = .ok t₁) ∧ ¬ t.Admits target ∧
        t'.at? (staging id target).place = some (.file text))) := by
  refine ⟨fun q => at?_file_error h, fun hadmits => ?_, ?_⟩
  · rcases file_error_cases h with ⟨-, hsame⟩ | ⟨-, hno, -⟩
    · exact hsame
    · exact absurd hadmits hno
  · rcases file_error_cases h with hnothing | ⟨hwrite, hno, rfl⟩
    · exact .inl hnothing
    · refine .inr ⟨hwrite, hno, ?_⟩
      rw [FileTree.at?_put _ (staging id target).place_ne_nil, if_pos rfl]

/-- Where the directory of a target is missing, nothing is changed. -/
theorem file_error_leaves_empty :
    let target := FilePath.ofText "d/log"
    let shown := file ⟨1⟩ target "x" .empty
    shown.1 = .error .notFound ∧ FileTree.empty.Admits target ∧ shown.2 = .empty := by
  intro target shown
  have herror : shown = (.error .notFound, shown.2) := rfl
  have hadmits : FileTree.empty.Admits target :=
    ⟨⟨by decide +kernel, by decide +kernel, by decide +kernel⟩, by decide +kernel⟩
  obtain ⟨-, hsame, -⟩ := file_error_leaves herror
  exact ⟨rfl, hadmits, hsame hadmits⟩

/-- Where the target is a directory, the staging file is left behind. -/
theorem file_leaves_staging :
    let t : FileTree := ⟨[((FilePath.ofText "log").place, .directory)]⟩
    let shown := file ⟨1⟩ (.ofText "log") "x" t
    shown.1 = .error .isDirectory ∧
      t.at? (staging ⟨1⟩ (.ofText "log")).place = none ∧
      shown.2.at? (staging ⟨1⟩ (.ofText "log")).place = some (.file "x") := by
  intro t shown
  refine ⟨rfl, ?_, ?_⟩
  · decide +kernel
  · decide +kernel

end Region

end EventFeed
