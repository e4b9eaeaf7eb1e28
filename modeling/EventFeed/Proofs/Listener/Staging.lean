import EventFeed.Proofs.Listener.Leftovers
import EventFeed.Proofs.Text.Numeral
import EventFeed.Proofs.Text.Utf8

/-!
# EventFeed.Proofs.Listener.Staging

When a listener can show what it receives in a file.

The staging file has the name of its target with thirty-seven more bytes behind it
(`Region.length_stagingMark`).  So it is not enough that the target can be written: its
name and its path must leave room for the mark, or the staging file cannot be made
(`Region.writable_staging_iff`).  If they do, and no directory stands where the staging
file is to stand, the text is shown (`Listener.shows_iff_room`).
-/

namespace EventFeed

namespace Region

variable {id : Uuid} {target : FilePath} {text : String} {t : FileTree}

/-! ## The mark -/

/-- The mark has characters of ASCII only, and no zero. -/
theorem forall_mem_mark (id : Uuid) :
    ∀ c ∈ ("." ++ id.simple ++ ".tmp").toList, c.toNat < 0x80 ∧ '\x00' ≠ c := by
  have hdigits : ∀ c ∈ id.digits, c.toNat < 0x80 ∧ '\x00' ≠ c := by
    intro c hc
    rcases List.mem_append.1 hc with hc | hc
    · rw [List.eq_of_mem_replicate hc]
      decide
    · exact forall_mem_toDigits (p := fun c => c.toNat < 0x80 ∧ '\x00' ≠ c) (by decide)
        (by decide) _ c hc
  intro c hc
  rw [String.toList_append, String.toList_append, List.mem_append, List.mem_append] at hc
  rcases hc with (hc | hc) | hc
  · obtain rfl : c = '.' := by simpa using hc
    decide
  · rw [Uuid.simple, String.toList_ofList] at hc
    exact hdigits c hc
  · have hletter : c = '.' ∨ c = 't' ∨ c = 'm' ∨ c = 'p' := by simpa using hc
    rcases hletter with rfl | rfl | rfl | rfl <;> decide

/-- **The mark takes thirty-seven bytes**: the thirty-two digits of the identifier, and
five more. -/
theorem length_stagingMark (id : Uuid) : (stagingMark id).length = 37 := by
  have hdigits : id.simple.toList.length = 32 := by
    rw [Uuid.simple, String.toList_ofList, Uuid.length_digits]
  rw [stagingMark, Utf8.length_encode_ascii fun c hc => (forall_mem_mark id c hc).1,
    String.toList_append, String.toList_append, List.length_append, List.length_append, hdigits]
  rfl

theorem zero_not_mem_stagingMark (id : Uuid) : 0 ∉ stagingMark id := by
  rw [stagingMark, Utf8.zero_mem_encode_iff]
  exact fun hmem => (forall_mem_mark id _ hmem).2 rfl

/-! ## Room for it -/

/-- The staging file's name is longer than its target's. -/
theorem length_last_staging (id : Uuid) (target : FilePath) :
    (staging id target).last.length = target.last.length + 37 := by
  rw [staging, FilePath.extend, List.length_append, length_stagingMark]

/-- And so is its path. -/
theorem length_bytes_staging (id : Uuid) (target : FilePath) :
    (staging id target).bytes.length = target.bytes.length + 37 := by
  rw [staging, FilePath.bytes_extend, List.length_append, length_stagingMark]

/-- Its name is not empty and no step, for it is too long to be one. -/
theorem namesFile_staging (id : Uuid) (target : FilePath) : (staging id target).NamesFile := by
  have hne {n : FileName} (hn : n.length < 37) : (staging id target).last ≠ n := by
    intro he
    have hlength := length_last_staging id target
    rw [he] at hlength
    omega
  exact ⟨hne (by decide), hne (by decide), hne (by decide)⟩

theorem zero_not_mem_bytes_staging (h : t.Leads target) : 0 ∉ (staging id target).bytes := by
  rw [staging, FilePath.bytes_extend, List.mem_append, not_or]
  exact ⟨h.1.1, zero_not_mem_stagingMark id⟩

/-- It is found where its target is, unless its path is too long. -/
theorem leads_staging_iff (h : t.Leads target) :
    t.Leads (staging id target) ↔ target.bytes.length ≤ 4058 := by
  have hpath := length_bytes_staging id target
  constructor
  · rintro ⟨⟨-, -, hlong⟩, -⟩
    rw [hpath, FilePath.maxLength] at hlong
    omega
  · intro hlong
    refine ⟨⟨zero_not_mem_bytes_staging h, ?_, ?_⟩, h.2⟩
    · intro hempty
      rw [hempty, List.length_nil] at hpath
      omega
    · rw [hpath, FilePath.maxLength]
      omega

/-- There is room for the staging file of a target: behind its name and behind its path,
and where it is to stand. -/
structure HasRoom (t : FileTree) (id : Uuid) (target : FilePath) : Prop where
  name : target.last.length ≤ 218
  path : target.bytes.length ≤ 4058
  free : t.at? (staging id target).place ≠ some .directory

/-- **The staging file of a target that can be written** can be written if and only if
there is room for it. -/
theorem writable_staging_iff (h : t.Writable target) :
    t.Writable (staging id target) ↔ HasRoom t id target := by
  have hname := length_last_staging id target
  constructor
  · rintro ⟨hleads, ⟨-, hfree⟩, hlength⟩
    exact ⟨by omega, (leads_staging_iff h.leads).1 hleads, hfree⟩
  · rintro ⟨hlength, hlong, hfree⟩
    exact ⟨(leads_staging_iff h.leads).2 hlong, ⟨namesFile_staging id target, hfree⟩, by omega⟩

/-- **If there is none**, writing it fails: its name or its path is too long, or else it
is a directory that stands there. -/
theorem write_staging_of_not_hasRoom (h : t.Writable target) (hroom : ¬ HasRoom t id target) :
    t.write (staging id target) text = .error (if target.last.length ≤ 218 ∧
      target.bytes.length ≤ 4058 then .isDirectory else .nameTooLong) := by
  by_cases hlong : target.bytes.length ≤ 4058
  · rw [FileTree.write_of_leads ((leads_staging_iff h.leads).2 hlong) (namesFile_staging id target),
      length_last_staging]
    by_cases hlength : target.last.length ≤ 218
    · -- Both are short enough, so it is the place that is taken.
      have htaken : t.at? (staging id target).place = some .directory :=
        of_not_not fun hfree => hroom ⟨hlength, hlong, hfree⟩
      rw [if_neg (by omega), if_pos htaken, if_pos ⟨hlength, hlong⟩]
    · rw [if_pos (by omega), if_neg fun hboth => hlength hboth.1]
  · have htoo : FilePath.maxLength < (staging id target).bytes.length := by
      rw [length_bytes_staging, FilePath.maxLength]
      omega
    rw [FileTree.write_of_long (zero_not_mem_bytes_staging h.leads) htoo,
      if_neg fun hboth => hlong hboth.2]

/-- **A text is shown** if and only if the staging file can be written and a file can
stand at the target. -/
theorem file_eq_ok_iff :
    (file id target text t).1 = .ok () ↔ t.Writable (staging id target) ∧ t.Admits target := by
  constructor
  · intro h
    rw [file] at h
    split at h
    · cases h
    next t₁ hwrite =>
    split at h
    · cases h
    · next t₂ hmove =>
      exact ⟨(FileTree.write_eq_ok_iff.1 hwrite).1, (exists_moveFile_iff hwrite).1 ⟨t₂, hmove⟩⟩
  · rintro ⟨hwritable, hadmits⟩
    have hwrite : t.write (staging id target) text =
        .ok (t.put (staging id target).place (.file text)) :=
      FileTree.write_eq_ok_iff.2 ⟨hwritable, rfl⟩
    obtain ⟨t₂, hmove⟩ := (exists_moveFile_iff hwrite).2 hadmits
    simp only [file, hwrite, hmove]

end Region

namespace Listener

/-- **When a listener can show its log in a file.**

Take a target that can be written: its path leads to a directory, ends in the name of a
file, and no directory stands there.  Whatever the listener has received before, with one
more payload it shows all of it and the target holds it, if there is room for the staging
file.  If there is none, it shows nothing and the files are as they were: the name is too
long, though the target's own is not, or a directory stands there. -/
theorem shows_iff_room {t : FileTree} {target : FilePath} (h : t.Writable target) (id : Uuid)
    (log : Log) (payload : String) :
    let shown := handle ⟨Region.file id target, log⟩ payload t
    (Region.HasRoom t id target → shown.1 = .ok () ∧ shown.2.2.at? target.place =
      some (.file (paragraphs (log.entries ++ [payload])))) ∧
    (¬ Region.HasRoom t id target → shown.1 = .error (.render (if target.last.length ≤ 218 ∧
      target.bytes.length ≤ 4058 then .isDirectory else .nameTooLong)) ∧ shown.2.2 = t) := by
  intro shown
  constructor
  · intro hroom
    have hok : (Region.file id target (paragraphs (log.entries ++ [payload])) t).1 = .ok () :=
      Region.file_eq_ok_iff.2 ⟨(Region.writable_staging_iff h).2 hroom, h.admits⟩
    have hshown := Region.at?_file_ok (Prod.ext hok rfl) target.place
    rw [if_pos rfl] at hshown
    exact ⟨congrArg (Except.mapError FeedError.render) hok, hshown⟩
  · intro hroom
    have hfile : Region.file id target (paragraphs (log.entries ++ [payload])) t =
        (.error (if target.last.length ≤ 218 ∧ target.bytes.length ≤ 4058 then .isDirectory
          else .nameTooLong), t) := by
      rw [Region.file, Region.write_staging_of_not_hasRoom h hroom]
    exact ⟨congrArg (fun r => r.1.mapError FeedError.render) hfile, congrArg Prod.snd hfile⟩

/-- A name of 218 bytes leaves room: here an `é` of two bytes, 109 times. -/
theorem shows_longest_name :
    let target : FilePath := ⟨[], (List.replicate 109 [0xC3, 0xA9]).flatten⟩
    let shown := handle ⟨Region.file ⟨1⟩ target, ⟨["first"]⟩⟩ "second" .empty
    target.last.length = 218 ∧ shown.1 = .ok () ∧
      shown.2.2.at? target.place = some (.file (paragraphs ["first", "second"])) := by
  intro target
  have hwritable : FileTree.empty.Writable target :=
    FileTree.writable_of_isLegal (by decide +kernel) (by decide +kernel)
  have hroom : Region.HasRoom .empty ⟨1⟩ target :=
    ⟨by decide +kernel, by decide +kernel, by decide +kernel⟩
  exact ⟨by decide +kernel, (shows_iff_room hwritable ⟨1⟩ ⟨["first"]⟩ "second").1 hroom⟩

/-- A name of 219 bytes does not, though a file of that name can be written. -/
theorem longer_name_not_shown :
    let target : FilePath := ⟨[], List.replicate 219 0x61⟩
    FileTree.empty.Writable target ∧
      (handle ⟨Region.file ⟨1⟩ target, Log.empty⟩ "x" FileTree.empty).1 =
        .error (.render .nameTooLong) := by
  intro target
  have hwritable : FileTree.empty.Writable target :=
    FileTree.writable_of_isLegal (by decide +kernel) (by decide +kernel)
  exact ⟨hwritable, by decide +kernel⟩

end Listener

end EventFeed
