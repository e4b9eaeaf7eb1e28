import EventFeed.Proofs.Listener.Rendering
import EventFeed.Proofs.Listener.Staging

/-!
# EventFeed.Proofs.Listener.Rows

What a row of payloads does to a region.

A listener that is handed one payload after the other gives its region one text for each:
the paragraphs of all payloads up to it (`Listener.handleAll_eq`, `Listener.renders_eq`).
What comes of a row of texts is a matter of the region.  An output has all of them, a line
end behind each (`Region.showAll_output`); memory holds the last one
(`Region.showAll_memory`); and so does a file, if it can be written and there is room for
the staging file (`Region.showAll_file`).  Whether or not it can, nothing but the file and
its staging file changes (`Region.at?_showAll_file`), and what is seen is the front of the
log that could last be shown (`Listener.shows_file`).
-/

namespace EventFeed

variable {σ : Type}

/-! ## Rows of texts -/

/-- Give a region one text after the other: what came of each, and its state after the
last one. -/
def Region.showAll (region : Region σ) : σ → List String → List (Except IoError Unit) × σ
  | s, [] => ([], s)
  | s, text :: texts =>
    let (shown, s) := region text s
    let (others, s) := showAll region s texts
    (shown :: others, s)

/-- The text of the file at a place, if a file stands there. -/
def FileTree.text? (t : FileTree) (q : FilePlace) : Option String :=
  match t.at? q with
  | some (.file text) => some text
  | _ => none

/-- The texts that show payloads as they come, behind those that have come before. -/
def Listener.renders : (before : List String) → List String → List String
  | _, [] => []
  | before, p :: ps => paragraphs (before ++ [p]) :: renders (before ++ [p]) ps

namespace Listener

/-- There is one for each payload: the paragraphs of all up to it. -/
theorem renders_eq (before ps : List String) : renders before ps =
    (List.range ps.length).map fun k => paragraphs (before ++ ps.take (k + 1)) := by
  induction ps generalizing before with
  | nil => rfl
  | cons p ps ih =>
    rw [renders, ih, List.length_cons, List.range_succ_eq_map, List.map_cons, List.map_map]
    simp

/-- The last one has all payloads. -/
theorem getLast?_renders (before : List String) {ps : List String} (h : ps ≠ []) :
    (renders before ps).getLast? = some (paragraphs (before ++ ps)) := by
  obtain ⟨n, hn⟩ : ∃ n, ps.length = n + 1 := Nat.exists_eq_succ_of_ne_zero
    (mt List.length_eq_zero_iff.1 h)
  rw [renders_eq, hn, List.range_succ, List.map_append, List.map_singleton,
    List.getLast?_append, ← hn, List.take_length]
  rfl

/-- **A listener shows these texts**, one after the other. -/
theorem handleAll_eq (l : Listener σ) (s : σ) (ps : List String) :
    l.handleAll s ps =
      ((l.region.showAll s (renders l.messages ps)).1.map (·.mapError .render),
        ⟨l.region, ⟨l.messages ++ ps⟩⟩, (l.region.showAll s (renders l.messages ps)).2) := by
  induction ps generalizing l s with
  | nil =>
    rw [List.append_nil]
    rfl
  | cons p ps ih =>
    simp only [handleAll, ih, messages_handle, renders, Region.showAll, List.append_assoc,
      List.map_cons]
    rfl

end Listener

namespace Region

/-! ## Outputs and memory -/

/-- An output has all texts, and a line end behind each. -/
theorem showAll_output (out : String) (texts : List String) :
    (output.showAll out texts).2 = out ++ String.join (texts.map (· ++ "\n")) := by
  induction texts generalizing out with
  | nil => simp [showAll]
  | cons text texts ih =>
    have hrest := ih (out ++ text ++ "\n")
    rw [List.map_cons, String.join_cons, ← String.append_assoc, ← String.append_assoc]
    exact hrest

/-- Memory holds the last text. -/
theorem showAll_memory (s : Option String) (texts : List String) :
    (memory.showAll s texts).2 = texts.getLast?.or s := by
  induction texts generalizing s with
  | nil => rfl
  | cons text texts ih =>
    have hrest := ih (some text)
    rw [List.getLast?_cons]
    refine hrest.trans ?_
    cases texts.getLast? with
    | none => rfl
    | some last => rfl

/-! ## Files -/

variable {id : Uuid} {target : FilePath} {text : String} {t : FileTree}

/-- **Nothing but the file and its staging file changes**, whatever can be shown. -/
theorem at?_showAll_file (texts : List String) {q : FilePlace} (htarget : q ≠ target.place)
    (hstaging : q ≠ (staging id target).place) :
    ((file id target).showAll t texts).2.at? q = t.at? q := by
  induction texts generalizing t with
  | nil => rfl
  | cons text texts ih =>
    have hrest := ih (t := (file id target text t).2)
    refine hrest.trans ?_
    generalize hshown : file id target text t = shown
    obtain ⟨result, t'⟩ := shown
    cases result with
    | ok u => rw [at?_file_ok hshown, if_neg htarget, if_neg hstaging]
    | error e => exact at?_file_error hshown hstaging

/-- A file can be written, and there is room for its staging file. -/
structure Ready (t : FileTree) (id : Uuid) (target : FilePath) : Prop where
  writable : t.Writable target
  room : HasRoom t id target

/-- Then a text can be shown, and the next one too. -/
theorem Ready.file (h : Ready t id target) (text : String) :
    (file id target text t).1 = .ok () ∧ Ready (file id target text t).2 id target := by
  have hok : (Region.file id target text t).1 = .ok () :=
    file_eq_ok_iff.2 ⟨(writable_staging_iff h.writable).2 h.room, h.writable.admits⟩
  have hat := at?_file_ok (Prod.ext hok rfl)
  refine ⟨hok, ⟨?_, ⟨h.writable.admits.1, ?_⟩, h.writable.length⟩, h.room.name, h.room.path, ?_⟩
  · -- no directory has gone: neither the target nor the staging file was one
    refine FileTree.Leads.of_directories (fun q hq => ?_) h.writable.leads
    have htarget : q ≠ target.place := fun he => h.writable.admits.2 (he ▸ hq)
    have hstaging : q ≠ (staging id target).place := fun he => h.room.free (he ▸ hq)
    rw [hat, if_neg htarget, if_neg hstaging, hq]
  · rw [hat, if_pos rfl]
    exact fun h => nomatch h
  · rw [hat, if_neg (place_staging_ne id target), if_pos rfl]
    exact fun h => nomatch h

/-- **A file holds the last text**, if it can be written and there is room for its staging
file; that is then gone. -/
theorem showAll_file (h : Ready t id target) {texts : List String}
    (hlast : texts.getLast? = some text) :
    (∀ r ∈ ((file id target).showAll t texts).1, r = .ok ()) ∧
    ∀ q, ((file id target).showAll t texts).2.at? q =
      if q = target.place then some (.file text)
      else if q = (staging id target).place then none else t.at? q := by
  induction texts generalizing t with
  | nil => cases hlast
  | cons first texts ih =>
    obtain ⟨hok, hready⟩ := h.file first
    have hfirst := at?_file_ok (Prod.ext hok rfl)
    rw [List.getLast?_cons] at hlast
    cases hmore : texts.getLast? with
    | none =>
      obtain rfl : texts = [] := List.getLast?_eq_none_iff.1 hmore
      obtain rfl : first = text := Option.some.inj hlast
      exact ⟨List.forall_mem_singleton.2 hok, hfirst⟩
    | some last =>
      rw [hmore] at hlast
      obtain rfl : last = text := Option.some.inj hlast
      obtain ⟨hall, hrest⟩ := ih hready hmore
      refine ⟨List.forall_mem_cons.2 ⟨hok, hall⟩, fun q => (hrest q).trans ?_⟩
      split
      · rfl
      next htarget =>
      split
      · rfl
      next hstaging => rw [hfirst, if_neg htarget, if_neg hstaging]

/-- A file holds the text that is shown, and what it held if none can be shown. -/
theorem replaces_file (id : Uuid) (target : FilePath) :
    (file id target).Replaces (·.text? target.place) where
  shown h := by
    rw [FileTree.text?, at?_file_ok (Prod.ext h rfl), if_pos rfl]
  kept h := by
    rw [FileTree.text?, FileTree.text?,
      at?_file_error (Prod.ext h rfl) (place_staging_ne id target).symm]

end Region

/-! ## What is seen of a listener -/

namespace Listener

/-- **In memory** every payload is shown, and the last one with all before it. -/
theorem shows_memory (ps : List String) :
    let after := (Listener.of Region.memory).handleAll none ps
    Shows Region.memory id ps after.1 after.2.1 after.2.2 :=
  ((shows_of Region.memory rfl).handleAll Region.replaces_memory ps).1

/-- **In a file** the front of the log is shown that could last be shown, and nothing
before, if no file stood there. -/
theorem shows_file {id : Uuid} {target : FilePath} {t : FileTree}
    (hunset : t.text? target.place = none) (ps : List String) :
    let after := (Listener.of (Region.file id target)).handleAll t ps
    Shows (Region.file id target) (·.text? target.place) ps after.1 after.2.1 after.2.2 :=
  ((shows_of (Region.file id target) hunset).handleAll (Region.replaces_file id target) ps).1

end Listener

end EventFeed
