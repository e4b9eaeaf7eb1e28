import EventFeed.Listener.Basic

/-!
# EventFeed.Proofs.Listener.Rendering

A listener whose region may fail.  All that is asked of the region is that a
replacement which succeeds shows the text, and one which fails leaves what is
shown as it was (`Region.Replaces`).

Whatever succeeds and whatever fails, the log has every payload; what is
shown is the part of the log that was there at the last success, and it only
ever grows at its end (`Listener.rendering`).
-/

namespace EventFeed

variable {σ : Type}

/-! ## Paragraphs -/

/-- The paragraphs of all payloads are joined. -/
theorem paragraphs_eq_join (ps : List String) :
    paragraphs ps = String.join (ps.map fun p => "<p>" ++ p ++ "</p>") := by
  induction ps with
  | nil => rfl
  | cons p ps ih =>
    rw [paragraphs_cons, ih, List.map_cons, String.join_cons]
    rfl

/-! ## Regions that may fail -/

/-- A region shows the text that it is given, or fails and shows what it did;
`content` tells what it shows, if it shows anything yet. -/
structure Region.Replaces (region : Region σ) (content : σ → Option String) : Prop where
  shown {text : String} {s : σ} : (region text s).1 = .ok () →
    content (region text s).2 = some text
  kept {text : String} {s : σ} {e : IoError} : (region text s).1 = .error e →
    content (region text s).2 = content s

/-- Memory shows what it holds, and never fails. -/
theorem Region.replaces_memory : Region.memory.Replaces id := ⟨fun _ => rfl, fun h => by cases h⟩

namespace Listener

/-! ## Payload after payload -/

/-- Receive payloads one after the other: what came of each, and the listener
and its region after the last one. -/
def handleAll (l : Listener σ) (s : σ) : List String →
    List (Except FeedError Unit) × Listener σ × σ
  | [] => ([], l, s)
  | p :: ps =>
    let (result, l, s) := l.handle p s
    let (results, l, s) := l.handleAll s ps
    (result :: results, l, s)

theorem handleAll_append (l : Listener σ) (s : σ) (ps qs : List String) :
    l.handleAll s (ps ++ qs) =
      let (results, l, s) := l.handleAll s ps
      let (more, l, s) := l.handleAll s qs
      (results ++ more, l, s) := by
  induction ps generalizing l s with
  | nil => rfl
  | cons p ps ih =>
    rw [List.cons_append, handleAll, handleAll]
    simp only [ih, List.cons_append]

/-- What holds of a listener and its region after the payloads. -/
structure Shows (region : Region σ) (content : σ → Option String) (ps : List String)
    (results : List (Except FeedError Unit)) (l : Listener σ) (s : σ) : Prop where
  region_eq : l.region = region
  messages_eq : l.messages = ps
  length_eq : results.length = ps.length
  /-- Nothing is shown before the first success. -/
  unset : (∀ r ∈ results, r ≠ .ok ()) → content s = none
  /-- The last success shows what was logged then. -/
  last : ∀ before later, results = before ++ .ok () :: later → (∀ r ∈ later, r ≠ .ok ()) →
    content s = some (paragraphs (ps.take (before.length + 1)))
  /-- Whatever is shown is the front of the log. -/
  front : ∀ shown, content s = some shown → ∃ done rest, ps = done ++ rest ∧ shown = paragraphs done

variable {region : Region σ} {content : σ → Option String} {ps : List String}
  {results : List (Except FeedError Unit)} {l : Listener σ} {s : σ}

/-- What stands in a row with one more at its end is the last one, or stands
before it. -/
theorem split_concat {α : Type} {xs before later : List α} {x y : α}
    (h : xs ++ [y] = before ++ x :: later) :
    (later = [] ∧ before = xs ∧ x = y) ∨
      ∃ rest, later = rest ++ [y] ∧ xs = before ++ x :: rest := by
  rcases List.eq_nil_or_concat later with rfl | ⟨rest, z, rfl⟩
  · obtain ⟨hxs, hy⟩ := List.append_inj' h rfl
    exact .inl ⟨rfl, hxs.symm, (List.singleton_inj.1 hy).symm⟩
  · have hlast : xs ++ [y] = (before ++ x :: rest) ++ [z] := by simpa using h
    obtain ⟨hxs, hy⟩ := List.append_inj' hlast rfl
    exact .inr ⟨rest, by rw [List.concat_eq_append, List.singleton_inj.1 hy], hxs⟩

/-- A payload is logged, and the region is given the whole log. -/
theorem Shows.handle_eq (h : Shows region content ps results l s) (p : String) :
    l.handle p s = ((region (paragraphs (ps ++ [p])) s).1.mapError .render,
      { l with log := l.log.push p }, (region (paragraphs (ps ++ [p])) s).2) := by
  have hentries : l.log.entries = ps := h.messages_eq
  rw [handle, h.region_eq, Log.entries_push, hentries]

/-- A payload that is shown. -/
theorem Shows.push_ok (h : Shows region content ps results l s) {p : String} {s' : σ}
    (hcontent : content s' = some (paragraphs (ps ++ [p]))) :
    Shows region content (ps ++ [p]) (results ++ [.ok ()]) { l with log := l.log.push p } s' where
  region_eq := h.region_eq
  messages_eq := by rw [← h.messages_eq]; rfl
  length_eq := by rw [List.length_append, List.length_append, h.length_eq]; rfl
  unset := fun hnone => absurd rfl (hnone _ (by simp))
  last := by
    intro before later hsplit hlater
    rcases split_concat hsplit with ⟨-, rfl, -⟩ | ⟨rest, rfl, -⟩
    · rw [hcontent, List.take_of_length_le]
      rw [List.length_append, h.length_eq]
      exact Nat.le_refl _
    · exact absurd rfl (hlater _ (by simp))
  front := by
    intro shown hshown
    rw [hcontent] at hshown
    exact ⟨ps ++ [p], [], by simp, (Option.some.inj hshown).symm⟩

/-- A payload that is not. -/
theorem Shows.push_error (h : Shows region content ps results l s) {p : String} {s' : σ}
    {e : FeedError} (hcontent : content s' = content s) :
    Shows region content (ps ++ [p]) (results ++ [.error e]) { l with log := l.log.push p } s' where
  region_eq := h.region_eq
  messages_eq := by rw [← h.messages_eq]; rfl
  length_eq := by rw [List.length_append, List.length_append, h.length_eq]; rfl
  unset := fun hnone => hcontent.trans (h.unset fun r hr => hnone r (List.mem_append_left _ hr))
  last := by
    intro before later hsplit hlater
    rcases split_concat hsplit with ⟨-, -, heq⟩ | ⟨rest, rfl, hresults⟩
    · cases heq
    · rw [hcontent, h.last before rest hresults fun r hr => hlater r (List.mem_append_left _ hr)]
      have hlt : before.length + 1 ≤ ps.length := by
        rw [← h.length_eq, hresults, List.length_append, List.length_cons]
        omega
      rw [List.take_append_of_le_length hlt]
  front := by
    intro shown hshown
    obtain ⟨done, rest, hps, hdone⟩ := h.front shown (hcontent ▸ hshown)
    exact ⟨done, rest ++ [p], by rw [hps, List.append_assoc], hdone⟩

/-- **One payload more**: it is logged, and what is shown is as before or grows
at its end. -/
theorem Shows.handle (h : Shows region content ps results l s) (hregion : region.Replaces content)
    (p : String) :
    Shows region content (ps ++ [p]) (results ++ [(l.handle p s).1]) (l.handle p s).2.1
        (l.handle p s).2.2 ∧
      ∀ shown, content s = some shown →
        ∃ more, content (l.handle p s).2.2 = some (shown ++ more) := by
  rw [h.handle_eq]
  cases hresult : (region (paragraphs (ps ++ [p])) s).1 with
  | ok u =>
    have hcontent := hregion.shown hresult
    refine ⟨h.push_ok hcontent, fun shown hshown => ?_⟩
    obtain ⟨done, rest, hps, rfl⟩ := h.front shown hshown
    exact ⟨paragraphs (rest ++ [p]), by
      rw [hcontent, hps, List.append_assoc, paragraphs_append]⟩
  | error e =>
    have hcontent := hregion.kept hresult
    exact ⟨h.push_error hcontent, fun shown hshown => ⟨"", by simp [hcontent, hshown]⟩⟩

/-- Any number of payloads more. -/
theorem Shows.handleAll (h : Shows region content ps results l s)
    (hregion : region.Replaces content) (qs : List String) :
    Shows region content (ps ++ qs) (results ++ (l.handleAll s qs).1) (l.handleAll s qs).2.1
        (l.handleAll s qs).2.2 ∧
      ∀ shown, content s = some shown →
        ∃ more, content (l.handleAll s qs).2.2 = some (shown ++ more) := by
  induction qs generalizing ps results l s with
  | nil => exact ⟨by simpa [Listener.handleAll] using h, fun shown hshown => ⟨"", by
      simpa [Listener.handleAll] using hshown⟩⟩
  | cons q qs ih =>
    obtain ⟨hfirst, hgrows⟩ := h.handle hregion q
    obtain ⟨hrest, hmore⟩ := ih hfirst
    simp only [List.append_assoc, List.singleton_append] at hrest
    refine ⟨hrest, fun shown hshown => ?_⟩
    obtain ⟨first, hfirst⟩ := hgrows shown hshown
    obtain ⟨more, hlast⟩ := hmore _ hfirst
    exact ⟨first ++ more, by rw [Listener.handleAll]; simpa [String.append_assoc] using hlast⟩

/-- At first nothing is logged and nothing is shown. -/
theorem shows_of (region : Region σ) (hunset : content s = none) :
    Shows region content [] [] (Listener.of region) s :=
  ⟨rfl, rfl, rfl, fun _ => hunset, fun before later h => by simp at h,
    fun shown h => by rw [hunset] at h; cases h⟩

/-! ## The law -/

/-- **What a listener has logged and shows** after any payloads, whichever of
them could be shown.  All of them are logged.  Another one succeeds if the
region shows the log with it.  Nothing is shown before the first success; then
the paragraphs of what was logged at the last one; and these are the front of
what is shown later. -/
theorem rendering (hregion : region.Replaces content) (hunset : content s = none)
    (ps : List String) :
    let after := (Listener.of region).handleAll s
    (after ps).2.1.messages = ps ∧ (after ps).2.1.log.length = ps.length ∧
      (after ps).1.length = ps.length ∧
      (∀ p, (after (ps ++ [p])).1 = (after ps).1 ++
        [(region (paragraphs (ps ++ [p])) (after ps).2.2).1.mapError .render]) ∧
      ((∀ r ∈ (after ps).1, r ≠ .ok ()) → content (after ps).2.2 = none) ∧
      (∀ before later, (after ps).1 = before ++ .ok () :: later → (∀ r ∈ later, r ≠ .ok ()) →
        content (after ps).2.2 = some (String.join
          ((ps.take (before.length + 1)).map fun p => "<p>" ++ p ++ "</p>"))) ∧
      ∀ qs shown, content (after ps).2.2 = some shown →
        ∃ more, content (after (ps ++ qs)).2.2 = some (shown ++ more) := by
  intro after
  obtain ⟨h, -⟩ := (shows_of region hunset).handleAll hregion ps
  rw [List.nil_append, List.nil_append] at h
  refine ⟨h.messages_eq, ?_, h.length_eq, fun p => ?_, h.unset,
    fun before later hsplit hlater => ?_, fun qs shown hshown => ?_⟩
  · exact congrArg List.length h.messages_eq
  · show (handleAll _ _ _).1 = _
    rw [handleAll_append]
    show _ ++ [(Listener.handle _ p _).1] = _
    rw [h.handle_eq]
  · rw [← paragraphs_eq_join]
    exact h.last before later hsplit hlater
  · obtain ⟨more, hmore⟩ := (h.handleAll hregion qs).2 shown hshown
    refine ⟨more, ?_⟩
    show content (handleAll _ _ _).2.2 = _
    rw [handleAll_append]
    exact hmore

/-! ## Samples -/

/-- A region that fails when its script says so, and shows everything once the
script is over. -/
def scripted : Region (List Bool × Option String) := fun text s =>
  match s with
  | (false :: script, shown) => (.error .notFound, (script, shown))
  | (true :: script, _) => (.ok (), (script, some text))
  | ([], _) => (.ok (), ([], some text))

theorem replaces_scripted : scripted.Replaces Prod.snd := by
  constructor
  · rintro text ⟨_ | ⟨_ | _, script⟩, shown⟩ h
    · rfl
    · cases h
    · rfl
  · rintro text ⟨_ | ⟨_ | _, script⟩, shown⟩ e h
    · cases h
    · rfl
    · cases h

/-- Of three payloads only the second one can be shown at once.  The first one
is shown with it, and the third one only along with a fourth. -/
theorem rendering_second_of_three :
    let after := (Listener.of scripted).handleAll ([false, true, false], none)
    (after ["a", "<b>", "c"]).2.1.messages = ["a", "<b>", "c"] ∧
      (after ["a", "<b>", "c"]).2.2.2 = some "<p>a</p><p><b></p>" ∧
      ∃ more, (after ["a", "<b>", "c", "d"]).2.2.2 = some ("<p>a</p><p><b></p>" ++ more) := by
  intro after
  obtain ⟨hmessages, -, -, -, -, hlast, hgrows⟩ :=
    rendering replaces_scripted (s := ([false, true, false], none)) rfl ["a", "<b>", "c"]
  have hshown : (after ["a", "<b>", "c"]).2.2.2 = some "<p>a</p><p><b></p>" :=
    hlast [.error (.render .notFound)] [.error (.render .notFound)] rfl (by simp)
  exact ⟨hmessages, hshown, hgrows ["d"] _ hshown⟩

end Listener

end EventFeed
