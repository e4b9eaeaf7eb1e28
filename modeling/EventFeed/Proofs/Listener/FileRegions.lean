import EventFeed.Listener.Basic
import EventFeed.Proofs.Files.Places

/-!
# EventFeed.Proofs.Listener.FileRegions

Listeners that show what they receive in files, among others who change the
files too.

A region in a file writes a staging file first and then moves it over its
target.  Seen from outside this is one change: if it succeeds, the target holds
the text, the staging file is gone, and nothing else is different
(`Region.at?_file_ok`); if it fails in either step, nothing but the staging file
is (`Region.at?_file_error`).  No listener's staging file is a target or the
staging file of another, so the listeners do not get in each other's way, and
whatever stands at a target was put there as a whole (`file_regions_whole`).
-/

namespace EventFeed

/-! ## One region -/

namespace Region

variable {id : Uuid} {target : FilePath} {text : String} {t t' : FileTree}

/-- The staging file stands at another place than the target. -/
theorem place_staging_ne (id : Uuid) (target : FilePath) :
    (staging id target).place ≠ target.place := by
  refine target.place_extend_ne ?_
  rw [stagingMark, Utf8.encode, String.toList_append, String.toList_append, List.flatMap_append,
    List.flatMap_append]
  have hdot : ".".toList.flatMap String.utf8EncodeChar ≠ [] := by decide
  simp only [ne_eq, List.append_eq_nil_iff, hdot, false_and, not_false_eq_true]

/-- **If the text is shown**, it is at the target, the staging file is gone, and
nothing else has changed. -/
theorem at?_file_ok (h : file id target text t = (.ok (), t')) (q : FilePlace) :
    t'.at? q = if q = target.place then some (.file text)
      else if q = (staging id target).place then none else t.at? q := by
  have hstaging := (staging id target).place_ne_nil
  rw [file] at h
  split at h
  · cases h
  · next t₁ hwrite =>
    split at h
    · cases h
    · next t₂ hmove =>
      obtain rfl : t₂ = t' := congrArg Prod.snd h
      obtain ⟨-, rfl⟩ := FileTree.write_eq_ok_iff.1 hwrite
      obtain ⟨-, -, text', htext, rfl⟩ := FileTree.moveFile_eq_ok_iff.1 hmove
      rw [FileTree.at?_put _ hstaging, if_pos rfl] at htext
      cases htext
      rw [FileTree.at?_put _ target.place_ne_nil, FileTree.at?_erase _ hstaging,
        FileTree.at?_put _ hstaging]
      split
      · rfl
      · split
        · rfl
        · rfl

/-- **If it is not**, nothing but the staging file has changed. -/
theorem at?_file_error {e : IoError} (h : file id target text t = (.error e, t')) {q : FilePlace}
    (hq : q ≠ (staging id target).place) : t'.at? q = t.at? q := by
  have hstaging := (staging id target).place_ne_nil
  rw [file] at h
  split at h
  · rw [show t = t' from congrArg Prod.snd h]
  · next t₁ hwrite =>
    split at h
    · obtain rfl : t₁ = t' := congrArg Prod.snd h
      obtain ⟨-, rfl⟩ := FileTree.write_eq_ok_iff.1 hwrite
      rw [FileTree.at?_put _ hstaging, if_neg hq]
    · cases h

end Region

/-! ## Many regions -/

/-- A listener that shows what it receives in a file. -/
structure FileListener where
  id : Uuid
  target : FilePath
  log : Log
deriving Repr, Inhabited

namespace FileListener

/-- It as a listener. -/
def listener (l : FileListener) : Listener FileTree := ⟨Region.file l.id l.target, l.log⟩

/-- Its staging file. -/
def staging (l : FileListener) : FilePath := Region.staging l.id l.target

/-- It after some payloads. -/
def receive (l : FileListener) (payloads : List String) : FileListener :=
  { l with log := ⟨l.log.entries ++ payloads⟩ }

/-- Two listeners are apart if neither's staging file is the staging file or the
target of the other. -/
def Apart (l m : FileListener) : Prop :=
  l.staging.place ≠ m.staging.place ∧ l.staging.place ≠ m.target.place ∧
    m.staging.place ≠ l.target.place

instance (l m : FileListener) : Decidable (l.Apart m) := inferInstanceAs (Decidable (_ ∧ _ ∧ _))

theorem Apart.symm {l m : FileListener} (h : l.Apart m) : m.Apart l :=
  ⟨h.1.symm, h.2.2, h.2.1⟩

@[simp] theorem receive_nil (l : FileListener) : l.receive [] = l := by simp [receive]

@[simp] theorem receive_receive (l : FileListener) (ps qs : List String) :
    (l.receive ps).receive qs = l.receive (ps ++ qs) := by simp [receive]

end FileListener

/-- The files, and the listeners that show something in them. -/
structure Display where
  files : FileTree
  listeners : List FileListener
deriving Inhabited

/-- What can happen to a display. -/
inductive DisplayAction where
  /-- A listener receives a payload. -/
  | handle (listener : Nat) (payload : String)
  /-- Somebody else changes the files. -/
  | outside (change : FileTree → FileTree)

namespace DisplayAction

/-- Somebody else tries to change the files, and changes nothing if that
fails. -/
def attempt (change : FileTree → Except IoError FileTree) : DisplayAction :=
  .outside fun t => (change t).toOption.getD t

/-- Somebody else makes a directory. -/
def makeDirectory (p : FilePath) : DisplayAction := attempt (·.makeDirectory p)

/-- Somebody else takes a directory away, with all that is in it. -/
def removeDirectory (p : FilePath) : DisplayAction := attempt (·.removeDirectory p)

/-- Somebody else writes a file. -/
def write (p : FilePath) (text : String) : DisplayAction := attempt (·.write p text)

end DisplayAction

namespace Display

/-- One step, and what came of it if a listener made it. -/
def step (d : Display) : DisplayAction → Display × Option (Except FeedError Unit)
  | .handle i payload =>
    match d.listeners[i]? with
    | some l =>
      let (result, after, files) := l.listener.handle payload d.files
      (⟨files, d.listeners.set i { l with log := after.log }⟩, some result)
    | none => (d, none)
  | .outside change => ({ d with files := change d.files }, none)

/-- All steps, one after the other. -/
def run (d : Display) : List DisplayAction → Display
  | [] => d
  | a :: rest => run (d.step a).1 rest

/-- The payloads that a listener receives in a run. -/
def handled (i : Nat) : List DisplayAction → List String
  | [] => []
  | .handle j payload :: rest => if j = i then payload :: handled i rest else handled i rest
  | .outside _ :: rest => handled i rest

/-- All listeners are apart. -/
def Apart (d : Display) : Prop := d.listeners.Pairwise FileListener.Apart

instance (d : Display) : Decidable d.Apart := inferInstanceAs (Decidable (List.Pairwise _ _))

variable {d : Display} {i : Nat} {l : FileListener}

theorem Apart.of_ne (h : d.Apart) (hl : d.listeners[i]? = some l) {j : Nat} {m : FileListener}
    (hm : d.listeners[j]? = some m) (hij : i ≠ j) : l.Apart m := by
  obtain ⟨hi, rfl⟩ := List.getElem?_eq_some_iff.1 hl
  obtain ⟨hj, rfl⟩ := List.getElem?_eq_some_iff.1 hm
  rcases Nat.lt_or_gt_of_ne hij with hlt | hgt
  · exact List.pairwise_iff_getElem.1 h i j hi hj hlt
  · exact (List.pairwise_iff_getElem.1 h j i hj hi hgt).symm

/-- A staging file is no target. -/
theorem Apart.target_ne (h : d.Apart) (hl : d.listeners[i]? = some l) {j : Nat}
    {m : FileListener} (hm : d.listeners[j]? = some m) : m.target.place ≠ l.staging.place := by
  by_cases hij : i = j
  · subst hij
    obtain rfl := Option.some.inj (hl.symm.trans hm)
    exact (Region.place_staging_ne l.id l.target).symm
  · exact (h.of_ne hl hm hij).2.1.symm

/-! ## Steps -/

/-- What a listener does when it receives a payload. -/
theorem step_handle (hl : d.listeners[i]? = some l) (payload : String) :
    let shown := Region.file l.id l.target (paragraphs (l.log.entries ++ [payload])) d.files
    d.step (.handle i payload) =
      (⟨shown.2, d.listeners.set i (l.receive [payload])⟩, some (shown.1.mapError .render)) := by
  simp only [step, hl]
  rfl

/-- **In one step** it shows its log, or fails.  If it can show the log, that is
at its target, its staging file is gone, and nothing else has changed; if not,
nothing but its staging file has. -/
theorem handle_cases (hl : d.listeners[i]? = some l) (payload : String) :
    let p := d.step (.handle i payload)
    (p.2 = some (.ok ()) ∧ ∀ q, p.1.files.at? q =
      if q = l.target.place then some (.file (paragraphs (l.log.entries ++ [payload])))
      else if q = l.staging.place then none else d.files.at? q) ∨
    ∃ e, p.2 = some (.error (.render e)) ∧
      ∀ q, q ≠ l.staging.place → p.1.files.at? q = d.files.at? q := by
  rw [step_handle hl]
  generalize hregion : Region.file l.id l.target (paragraphs (l.log.entries ++ [payload])) d.files =
    outcome
  obtain ⟨shown, files⟩ := outcome
  cases shown with
  | ok u => exact .inl ⟨rfl, Region.at?_file_ok hregion⟩
  | error e => exact .inr ⟨e, rfl, fun q => Region.at?_file_error hregion⟩

/-- A step changes of a listener only what it has received. -/
theorem listeners_step (d : Display) (a : DisplayAction) (i : Nat) :
    (d.step a).1.listeners[i]? = (d.listeners[i]?).map (·.receive (handled i [a])) := by
  cases a with
  | outside change => simp [step, handled]
  | handle j payload =>
    cases hj : d.listeners[j]? with
    | none =>
      have hstep : (d.step (.handle j payload)).1 = d := by simp only [step, hj]
      rw [hstep, handled]
      split
      · next hji =>
        subst hji
        rw [hj]
        rfl
      · simp [handled]
    | some m =>
      rw [step_handle hj]
      simp only [handled]
      by_cases hji : j = i
      · subst hji
        rw [List.getElem?_set_self (List.getElem?_eq_some_iff.1 hj).1, hj, if_pos rfl]
        rfl
      · rw [List.getElem?_set_ne hji, if_neg hji]
        simp

/-! ## Runs -/

theorem handled_append (i : Nat) (as bs : List DisplayAction) :
    handled i (as ++ bs) = handled i as ++ handled i bs := by
  induction as with
  | nil => rfl
  | cons a as ih =>
    cases a with
    | outside change => exact ih
    | handle j payload =>
      simp only [List.cons_append, handled, ih]
      split <;> rfl

/-- A run changes of a listener only what it has received. -/
theorem listeners_run (d : Display) (steps : List DisplayAction) (i : Nat) :
    (d.run steps).listeners[i]? = (d.listeners[i]?).map (·.receive (handled i steps)) := by
  induction steps generalizing d with
  | nil => simp [run, handled]
  | cons a rest ih =>
    have hsplit : handled i (a :: rest) = handled i [a] ++ handled i rest :=
      handled_append i [a] rest
    rw [run, ih, listeners_step, Option.map_map, hsplit]
    congr 1
    funext l
    exact l.receive_receive _ _

/-- So what a listener has from the beginning stays as it is. -/
theorem map_listeners_run {β : Type} (f : FileListener → β) (hf : ∀ l ps, f (l.receive ps) = f l)
    (d : Display) (steps : List DisplayAction) :
    (d.run steps).listeners.map f = d.listeners.map f := by
  refine List.ext_getElem? fun i => ?_
  rw [List.getElem?_map, List.getElem?_map, listeners_run, Option.map_map]
  congr 1
  funext l
  exact hf l _

/-- Listeners that were apart stay so. -/
theorem Apart.run (h : d.Apart) (steps : List DisplayAction) : (d.run steps).Apart := by
  let bare (l : FileListener) : FileListener := ⟨l.id, l.target, .empty⟩
  have hbare : (d.listeners.map bare).Pairwise FileListener.Apart := List.pairwise_map.2 h
  rw [← map_listeners_run bare (fun _ _ => rfl) d steps, List.pairwise_map] at hbare
  exact hbare

/-! ## What stands at a target -/

/-- Does a step put something at a place?  A listener does if it shows its log
there, and others do if they change what stands there. -/
def Sets (d : Display) (p : FilePlace) : DisplayAction → Prop
  | .handle i payload => (d.step (.handle i payload)).2 = some (.ok ()) ∧
      ∃ l, d.listeners[i]? = some l ∧ l.target.place = p
  | .outside change => (change d.files).at? p ≠ d.files.at? p

/-- No step of a run puts anything at the place. -/
def Untouched (p : FilePlace) (d : Display) : List DisplayAction → Prop
  | [] => True
  | a :: rest => ¬ d.Sets p a ∧ Untouched p (d.step a).1 rest

/-- A target stays as it is in a step that does not put anything there. -/
theorem Apart.at?_step (h : d.Apart) {p : FilePlace} (hp : p ∈ d.listeners.map (·.target.place))
    {a : DisplayAction} (ha : ¬ d.Sets p a) : (d.step a).1.files.at? p = d.files.at? p := by
  cases a with
  | outside change => exact Classical.not_not.1 ha
  | handle i payload =>
    cases hl : d.listeners[i]? with
    | none => simp only [step, hl]
    | some l =>
      have hstaging : p ≠ l.staging.place := by
        obtain ⟨m, hm, rfl⟩ := List.mem_map.1 hp
        obtain ⟨j, hj⟩ := List.getElem?_of_mem hm
        exact h.target_ne hl hj
      rcases handle_cases hl payload with ⟨hok, hfiles⟩ | ⟨e, -, hfiles⟩
      · have htarget : p ≠ l.target.place := fun he => ha ⟨hok, l, hl, he.symm⟩
        rw [hfiles, if_neg htarget, if_neg hstaging]
      · exact hfiles p hstaging

/-- What stands at a target after a run is what stood there before, or what the
last step that put something there has put. -/
theorem Apart.last_set (h : d.Apart) {p : FilePlace} (hp : p ∈ d.listeners.map (·.target.place))
    (steps : List DisplayAction) :
    (Untouched p d steps ∧ (d.run steps).files.at? p = d.files.at? p) ∨
    ∃ before a after, steps = before ++ a :: after ∧ (d.run before).Sets p a ∧
      Untouched p ((d.run before).step a).1 after ∧
      (d.run steps).files.at? p = ((d.run before).step a).1.files.at? p := by
  induction steps generalizing d with
  | nil => exact .inl ⟨trivial, rfl⟩
  | cons a rest ih =>
    have htargets : (d.run [a]).listeners.map (·.target.place) = _ :=
      map_listeners_run _ (fun _ _ => rfl) d [a]
    rw [← htargets] at hp
    rcases ih (h.run [a]) hp with
      ⟨huntouched, hsame⟩ | ⟨before, b, after, rfl, hsets, huntouched, hlast⟩
    · by_cases ha : d.Sets p a
      · exact .inr ⟨[], a, rest, rfl, ha, huntouched, hsame⟩
      · rw [htargets] at hp
        exact .inl ⟨⟨ha, huntouched⟩, hsame.trans (h.at?_step hp ha)⟩
    · exact .inr ⟨a :: before, b, after, rfl, hsets, huntouched, hlast⟩

/-- **A file shows a whole log or what others put there.**

Take any run of listeners whose staging files are apart, and of others who change
the files in any way.  A listener that receives a payload after it either succeeds:
then its target holds all that it has ever received, its staging file is gone,
and every other place is as it was.  Or it fails: then nothing but its staging
file has changed, so every target is as it was, and so is the staging file of
every other listener.

What stands at a target after the run is what stood there at first, or what the
last step that put something there has put: somebody else, or a listener of this
target, which has put all that it had received by then. -/
theorem file_regions_whole (h : d.Apart) (steps : List DisplayAction) :
    (∀ i l, d.listeners[i]? = some l → ∀ payload,
      let g := d.run steps
      let p := g.step (.handle i payload)
      let log := l.log.entries ++ handled i steps ++ [payload]
      (p.2 = some (.ok ()) → ∀ q, p.1.files.at? q =
        if q = l.target.place then some (.file (paragraphs log))
        else if q = l.staging.place then none else g.files.at? q) ∧
      (p.2 ≠ some (.ok ()) → (∃ e, p.2 = some (.error (.render e))) ∧
        (∀ q, q ≠ l.staging.place → p.1.files.at? q = g.files.at? q) ∧
        ∀ j m, d.listeners[j]? = some m →
          p.1.files.at? m.target.place = g.files.at? m.target.place ∧
          (j ≠ i → p.1.files.at? m.staging.place = g.files.at? m.staging.place))) ∧
    (∀ p ∈ d.listeners.map (·.target.place),
      (Untouched p d steps ∧ (d.run steps).files.at? p = d.files.at? p) ∨
      ∃ before a after, steps = before ++ a :: after ∧ (d.run before).Sets p a ∧
        Untouched p ((d.run before).step a).1 after ∧
        (d.run steps).files.at? p = ((d.run before).step a).1.files.at? p ∧
        ∀ i payload, a = .handle i payload → ∃ l, d.listeners[i]? = some l ∧
          (d.run steps).files.at? p =
            some (.file (paragraphs (l.log.entries ++ handled i before ++ [payload])))) := by
  refine ⟨fun i l hl payload => ?_, fun p hp => ?_⟩
  · have hg : (d.run steps).listeners[i]? = some (l.receive (handled i steps)) := by
      rw [listeners_run, hl]
      rfl
    rcases handle_cases hg payload with ⟨hok, hfiles⟩ | ⟨e, he, hfiles⟩
    · exact ⟨fun _ => hfiles, fun hfailed => absurd hok hfailed⟩
    · refine ⟨fun hok => ?_, fun _ => ⟨⟨e, he⟩, hfiles, fun j m hm => ?_⟩⟩
      · cases he.symm.trans hok
      · exact ⟨hfiles _ (h.target_ne hl hm), fun hji =>
          hfiles _ (h.of_ne hl hm hji.symm).1.symm⟩
  · rcases h.last_set hp steps with hnone | ⟨before, a, after, hsteps, hsets, huntouched, hlast⟩
    · exact .inl hnone
    · refine .inr ⟨before, a, after, hsteps, hsets, huntouched, hlast, ?_⟩
      rintro i payload rfl
      obtain ⟨hok, m, hm, rfl⟩ := hsets
      have hbefore := listeners_run d before i
      rw [hm] at hbefore
      obtain ⟨l, hl, rfl⟩ := Option.map_eq_some_iff.1 hbefore.symm
      refine ⟨l, hl, ?_⟩
      rcases handle_cases hm payload with ⟨-, hfiles⟩ | ⟨e, he, -⟩
      · rw [hlast, hfiles, if_pos rfl]
        rfl
      · cases he.symm.trans hok

/-! ## Samples -/

/-- Two listeners of one target, whose directory is not there. -/
def sample : Display :=
  ⟨.empty, [⟨⟨1⟩, .ofText "d/log", .empty⟩, ⟨⟨2⟩, .ofText "d/log", .empty⟩]⟩

theorem apart_sample : sample.Apart := by decide +kernel

/-- The first one fails, for lack of the directory.  Then the directory is made,
the second one shows a payload, somebody writes over it, and the first one shows
both of its payloads. -/
theorem file_regions_whole_sample :
    let steps := [.handle 0 "a", .makeDirectory (.ofText "d"), .handle 1 "x",
      .write (.ofText "d/log") "?", .removeDirectory (.ofText "e")]
    let p := (sample.run steps).step (.handle 0 "b")
    p.1.files.at? (FilePath.ofText "d/log").place = some (.file "<p>a</p><p>b</p>") := by
  intro steps p
  obtain ⟨hhandle, -⟩ := file_regions_whole apart_sample steps
  obtain ⟨hok, -⟩ := hhandle 0 _ rfl "b"
  have hshown : p.2 = some (.ok ()) := rfl
  rw [hok hshown]
  decide +kernel

end Display

end EventFeed
