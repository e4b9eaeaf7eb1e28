import EventFeed.Proofs.Client.Reading
import EventFeed.Proofs.Listener.Rendering

/-!
# EventFeed.Proofs.Client.Relistening

Listening that goes on after a payload could not be shown.  Such a call takes
the frames up to the one of that payload and hands their payloads to the
listener, and nothing else (`Client.StoppedAt`).  What is left unread is what a
call after it takes, so the calls together do with the region what one row of
payloads does: none is lost, and none comes twice (`Client.relistening`).
-/

namespace EventFeed

/-! ## Payloads of a row of frames -/

namespace Received

/-- A frame or failure behind which nothing is read. -/
def ends : Received → Bool
  | .frame .close | .failed _ => true
  | _ => false

/-- The payloads of one event among the texts of a row of frames. -/
def payloads (name : String) (frames : List Received) : List String :=
  (heard frames).filterMap (Envelope.decodeEvent · name)

variable {before rest : List Received}

/-- A row without an end is read through. -/
theorem heard_append (h : ∀ f ∈ before, f.ends = false) (rest : List Received) :
    heard (before ++ rest) = heard before ++ heard rest := by
  induction before with
  | nil => rfl
  | cons f before ih =>
    obtain ⟨hf, hbefore⟩ := List.forall_mem_cons.1 h
    match f with
    | .failed _ => cases hf
    | .frame .close => cases hf
    | .frame (.text t) => exact congrArg (t :: ·) (ih hbefore)
    | .frame (.binary _) => exact ih hbefore
    | .frame (.ping _) => exact ih hbefore
    | .frame (.pong _) => exact ih hbefore

/-- So it is the row behind it that tells how both end. -/
theorem closing_append {α : Type} (x : α) (h : ∀ f ∈ before, f.ends = false)
    (rest : List Received) : closing x (before ++ rest) = closing x rest := by
  induction before with
  | nil => rfl
  | cons f before ih =>
    obtain ⟨hf, hbefore⟩ := List.forall_mem_cons.1 h
    match f with
    | .failed _ => cases hf
    | .frame .close => cases hf
    | .frame (.text _) => exact ih hbefore
    | .frame (.binary _) => exact ih hbefore
    | .frame (.ping _) => exact ih hbefore
    | .frame (.pong _) => exact ih hbefore

theorem payloads_append (name : String) (h : ∀ f ∈ before, f.ends = false)
    (rest : List Received) :
    payloads name (before ++ rest) = payloads name before ++ payloads name rest := by
  rw [payloads, heard_append h, List.filterMap_append]
  rfl

/-- A text that carries the event comes with its payload. -/
theorem payloads_text {name t payload : String} (h : Envelope.decodeEvent t name = some payload)
    (rest : List Received) :
    payloads name (.frame (.text t) :: rest) = payload :: payloads name rest :=
  List.filterMap_cons_some h

end Received

open Received (heard closing payloads)

/-! ## Many payloads -/

namespace Listener

variable {σ : Type}

/-- A listener keeps its region. -/
theorem region_handleAll (l : Listener σ) (s : σ) (ps : List String) :
    (l.handleAll s ps).2.1.region = l.region := by
  induction ps generalizing l s with
  | nil => rfl
  | cons p ps ih => exact ih (l.handle p s).2.1 (l.handle p s).2.2

/-- Whatever can be shown, all payloads are logged. -/
theorem messages_handleAll (l : Listener σ) (s : σ) (ps : List String) :
    (l.handleAll s ps).2.1.messages = l.messages ++ ps := by
  induction ps generalizing l s with
  | nil => exact (List.append_nil _).symm
  | cons p ps ih =>
    have hrest := ih (l.handle p s).2.1 (l.handle p s).2.2
    rw [messages_handle, List.append_assoc] at hrest
    exact hrest

/-- A payload that could not be shown is logged, and the region has failed with
the whole log. -/
theorem handle_eq_error {l l' : Listener σ} {s s' : σ} {payload : String} {e : FeedError}
    (h : l.handle payload s = (.error e, l', s')) :
    ∃ e', e = .render e' ∧ l.region (paragraphs l'.messages) s = (.error e', s') := by
  rw [handle] at h
  generalize hshown : l.region (paragraphs (l.log.push payload).entries) s = shown at h
  obtain ⟨result, s₁⟩ := shown
  cases result with
  | ok u => cases h
  | error e' =>
    cases h
    exact ⟨e', rfl, hshown⟩

/-- A payload was shown if the region could show the whole log. -/
theorem shown_of_handle {l : Listener σ} {s : σ} {payload : String}
    (h : (l.handle payload s).1 = .ok ()) :
    (l.region (paragraphs (l.handle payload s).2.1.messages) s).1 = .ok () := by
  change (l.region (paragraphs (l.log.push payload).entries) s).1.mapError FeedError.render =
    .ok () at h
  change (l.region (paragraphs (l.log.push payload).entries) s).1 = .ok ()
  cases hshown : (l.region (paragraphs (l.log.push payload).entries) s).1 with
  | ok u => rfl
  | error e =>
    rw [hshown] at h
    cases h

/-- The payloads before the last one, and the last one. -/
theorem handleAll_concat (l : Listener σ) (s : σ) (ps : List String) (p : String) :
    l.handleAll s (ps ++ [p]) =
      let done := l.handleAll s ps
      let last := done.2.1.handle p done.2.2
      (done.1 ++ [last.1], last.2.1, last.2.2) := by
  rw [handleAll_append]
  rfl

/-- If the last payload was shown, it was with all before it. -/
theorem content_handleAll {content : σ → Option String} {l : Listener σ}
    (hregion : l.region.Replaces content) {s : σ} {ps : List String}
    (hlast : (l.handleAll s ps).1.getLast? = some (.ok ())) :
    content (l.handleAll s ps).2.2 = some (paragraphs (l.handleAll s ps).2.1.messages) := by
  rcases List.eq_nil_or_concat ps with rfl | ⟨qs, q, rfl⟩
  · cases hlast
  rw [List.concat_eq_append, handleAll_concat] at hlast ⊢
  simp only [List.getLast?_append, List.getLast?_singleton, Option.some_or, Option.some.injEq]
    at hlast
  have hsame := l.region_handleAll s qs
  generalize l.handleAll s qs = done at hlast hsame ⊢
  rw [← hsame] at hregion
  exact hregion.shown (shown_of_handle hlast)

end Listener

namespace Client

variable {σ : Type} {name : String} {c : Client} {l : Listener σ} {s : σ}

/-! ## One call -/

/-- What a call has come to: its result, and the client, the listener and its
region after it. -/
abbrev Call (σ : Type) := Except FeedError Unit × Client × Listener σ × σ

/-- A call stopped at a payload that could not be shown.  What is unread stands
behind the frame of that payload; the listener has got the payloads of the
frames before it, with these results, and that one. -/
def StoppedAt (name : String) (c : Client) (l : Listener σ) (s : σ)
    (results : List (Except FeedError Unit)) (p : Call σ) : Prop :=
  ∃ before t payload e, c.unread = before ++ .frame (.text t) :: p.2.1.unread ∧
    p.2.1.endpoint = c.endpoint ∧ (∀ f ∈ before, f.ends = false) ∧
    Envelope.decodeEvent t name = some payload ∧ p.1 = .error (.render e) ∧
    l.handleAll s (payloads name before ++ [payload]) =
      (results ++ [.error (.render e)], p.2.2.1, p.2.2.2)

/-- A payload stands in a text frame, behind frames without one. -/
theorem nextIn_eq_append {payload : String} {frames rest : List Received}
    (h : nextIn name frames = (.ok (some payload), rest)) :
    ∃ before t, frames = before ++ .frame (.text t) :: rest ∧ (∀ f ∈ before, f.ends = false) ∧
      payloads name before = [] ∧ Envelope.decodeEvent t name = some payload := by
  induction frames with
  | nil => cases h
  | cons f frames ih =>
    -- a frame that is passed over comes before what is found behind it
    have hpassed (hf : f.ends = false) (hnone : payloads name [f] = [])
        (h : nextIn name frames = (.ok (some payload), rest)) :
        ∃ before t, f :: frames = before ++ .frame (.text t) :: rest ∧
          (∀ f ∈ before, f.ends = false) ∧ payloads name before = [] ∧
          Envelope.decodeEvent t name = some payload := by
      obtain ⟨before, t, rfl, hopen, hbefore, ht⟩ := ih h
      refine ⟨f :: before, t, rfl, List.forall_mem_cons.2 ⟨hf, hopen⟩, ?_, ht⟩
      have hone : ∀ g ∈ [f], g.ends = false := List.forall_mem_singleton.2 hf
      rw [← List.singleton_append, Received.payloads_append name hone, hnone, hbefore]
      rfl
    match f with
    | .failed _ => cases h
    | .frame .close => cases h
    | .frame (.binary _) => exact hpassed rfl rfl h
    | .frame (.ping _) => exact hpassed rfl rfl h
    | .frame (.pong _) => exact hpassed rfl rfl h
    | .frame (.text t) =>
      cases ht : Envelope.decodeEvent t name with
      | some found =>
        rw [nextIn, ht] at h
        cases h
        exact ⟨[], t, rfl, fun f hf => absurd hf List.not_mem_nil, rfl, ht⟩
      | none =>
        rw [nextIn, ht] at h
        exact hpassed rfl (List.filterMap_cons_none ht) h

/-- **One call**, with fuel enough for each frame, hands over all payloads and
comes to the end, or it stops at the first that cannot be shown. -/
theorem listenFor_cases (name : String) {fuel : Nat} (hfuel : c.unread.length < fuel)
    (l : Listener σ) (s : σ) :
    let shown := l.handleAll s (payloads name c.unread)
    ((∀ r ∈ shown.1, r.isOk = true) ∧ listenFor name fuel c l s =
      (closing () c.unread, { c with unread := [] }, shown.2.1, shown.2.2)) ∨
    ∃ results, (∀ r ∈ results, r.isOk = true) ∧
      StoppedAt name c l s results (listenFor name fuel c l s) := by
  induction fuel generalizing c l s with
  | zero => cases hfuel
  | succ fuel ih =>
    rw [listenFor, nextEvent]
    rcases nextIn_cases name c.unread with ⟨_, _, payload, rest, _, _, _, _, hnext⟩ | ⟨hnone, hnext⟩
    · obtain ⟨before, t, hunread, hopen, hbefore, ht⟩ := nextIn_eq_append hnext
      have hpayloads : payloads name c.unread = payload :: payloads name rest := by
        rw [hunread, Received.payloads_append name hopen, hbefore, Received.payloads_text ht]
        rfl
      have hclosing : closing () c.unread = closing () rest := by
        rw [hunread, Received.closing_append () hopen]
        rfl
      rw [hpayloads]
      simp only [hnext, Listener.handleAll]
      obtain ⟨result, l₁, s₁, hhandle⟩ : ∃ result l₁ s₁, l.handle payload s = (result, l₁, s₁) :=
        ⟨_, _, _, rfl⟩
      cases result with
      | error e =>
        -- the region has failed
        obtain ⟨e, rfl, -⟩ := Listener.handle_eq_error hhandle
        simp only [hhandle]
        refine .inr ⟨[], fun r hr => absurd hr List.not_mem_nil, before, t, payload, e, hunread,
          rfl, hopen, ht, rfl, ?_⟩
        rw [hbefore, List.nil_append, Listener.handleAll, hhandle]
        rfl
      | ok u =>
        simp only [hhandle]
        have hlength : rest.length < fuel := Nat.lt_of_lt_of_le (length_nextIn hnext)
          (Nat.le_of_lt_succ hfuel)
        rcases ih (c := { c with unread := rest }) hlength l₁ s₁ with
          ⟨hall, hlisten⟩ | ⟨results, hall, before', t', payload', e, hrest, hsame, hopen', ht', he,
            hlater⟩
        · exact .inl ⟨List.forall_mem_cons.2 ⟨rfl, hall⟩, by rw [hlisten, hclosing]⟩
        · refine .inr ⟨.ok u :: results, List.forall_mem_cons.2 ⟨rfl, hall⟩,
            before ++ .frame (.text t) :: before', t', payload', e, ?_, hsame, ?_, ht', he, ?_⟩
          · rw [hunread, List.append_assoc, List.cons_append]
            exact congrArg (fun frames => before ++ .frame (.text t) :: frames) hrest
          · exact List.forall_mem_append.2 ⟨hopen, List.forall_mem_cons.2 ⟨rfl, hopen'⟩⟩
          · rw [Received.payloads_append name hopen, hbefore, Received.payloads_text ht,
              List.nil_append, List.cons_append, Listener.handleAll, hhandle]
            simp only [hlater, List.cons_append]
    · have hothers : payloads name c.unread = [] := List.filterMap_eq_nil_iff.2 hnone
      rw [hothers, hnext]
      refine .inl ⟨fun r hr => absurd hr List.not_mem_nil, ?_⟩
      rcases Received.closing_cases c.unread with hok | ⟨e, herror⟩
      · simp only [hok, Listener.handleAll]
      · simp only [herror, Listener.handleAll]

/-- If all payloads can be shown, a call hands them over and comes to the end. -/
theorem listen_of_isOk (h : ∀ r ∈ (l.handleAll s (payloads name c.unread)).1, r.isOk = true) :
    c.listen name l s = (closing () c.unread, { c with unread := [] },
      (l.handleAll s (payloads name c.unread)).2) := by
  rcases listenFor_cases name (Nat.lt_succ_self c.unread.length) l s with
    ⟨-, hlisten⟩ | ⟨results, -, before, t, payload, e, hunread, -, hopen, ht, -, hhandle⟩
  · exact hlisten
  · -- the payload where it stopped is one of those that can be shown
    rw [hunread, Received.payloads_append name hopen, Received.payloads_text ht,
      List.append_cons, Listener.handleAll_append, hhandle] at h
    exact absurd (h (.error (.render e)) (by simp)) Bool.false_ne_true

/-- If the first payload cannot be shown, a call stops there. -/
theorem listen_of_error {payload : String} {ps : List String} {e : FeedError} {l' : Listener σ}
    {s' : σ} (hps : payloads name c.unread = payload :: ps)
    (h : l.handle payload s = (.error e, l', s')) :
    ∃ c', c.listen name l s = (.error e, c', l', s') := by
  rw [listen, listenFor, nextEvent]
  rcases nextIn_cases name c.unread with ⟨_, _, found, rest, _, _, _, _, hnext⟩ | ⟨hnone, -⟩
  · obtain ⟨before, t, hunread, hopen, hbefore, ht⟩ := nextIn_eq_append hnext
    rw [hunread, Received.payloads_append name hopen, hbefore, Received.payloads_text ht] at hps
    obtain rfl : found = payload := (List.cons.inj hps).1
    simp only [hnext, h]
    exact ⟨_, rfl⟩
  · rw [payloads, List.filterMap_eq_nil_iff.2 hnone] at hps
    cases hps

/-- Whatever comes of a call, its listener has handled a row of payloads. -/
theorem exists_handleAll (name : String) (c : Client) (l : Listener σ) (s : σ) :
    ∃ ps, (c.listen name l s).2.2 = (l.handleAll s ps).2 := by
  rcases listenFor_cases name (Nat.lt_succ_self c.unread.length) l s with
    ⟨-, hlisten⟩ | ⟨results, -, before, t, payload, e, -, -, -, -, -, hhandle⟩
  · exact ⟨_, congrArg (·.2.2) hlisten⟩
  · exact ⟨_, congrArg (·.2) hhandle.symm⟩

/-! ## Call after call -/

/-- Listen, and once more after each payload that could not be shown, at most so
often: what each of these calls has come to. -/
def listenAgain (name : String) : Nat → Client → Listener σ → σ → List (Call σ)
  | 0, _, _, _ => []
  | n + 1, c, l, s =>
    let call := c.listen name l s
    call :: match call with
      | (.error (.render _), c, l, s) => listenAgain name n c l s
      | _ => []

/-- Where a call stopped, seen from a call that had stopped before it. -/
theorem StoppedAt.trans {first later : List (Except FeedError Unit)} {p q : Call σ}
    (hp : StoppedAt name c l s first p) (hq : StoppedAt name p.2.1 p.2.2.1 p.2.2.2 later q) :
    StoppedAt name c l s (first ++ p.1 :: later) q := by
  obtain ⟨before, t, payload, e, hunread, hsame, hopen, ht, he, hhandle⟩ := hp
  obtain ⟨before', t', payload', e', hunread', hsame', hopen', ht', he', hhandle'⟩ := hq
  refine ⟨before ++ .frame (.text t) :: before', t', payload', e', ?_, hsame'.trans hsame,
    List.forall_mem_append.2 ⟨hopen, List.forall_mem_cons.2 ⟨rfl, hopen'⟩⟩, ht', he', ?_⟩
  · rw [hunread, hunread', List.append_assoc]
    rfl
  · have hpayloads : payloads name (before ++ .frame (.text t) :: before') ++ [payload'] =
        (payloads name before ++ [payload]) ++ (payloads name before' ++ [payload']) := by
      rw [Received.payloads_append name hopen, Received.payloads_text ht]
      simp
    rw [hpayloads, Listener.handleAll_append, hhandle]
    simp only [hhandle', he, List.append_assoc, List.cons_append, List.nil_append]

/-- **Calls one after the other** hand over the payloads as one row: each but the
last stops at one that cannot be shown, and the last comes to the end. -/
theorem listenAgain_eq (name : String) {n : Nat} (hn : c.unread.length < n) (l : Listener σ)
    (s : σ) :
    let shown := l.handleAll s (payloads name c.unread)
    ∃ stops, listenAgain name n c l s =
        stops ++ [(closing () c.unread, { c with unread := [] }, shown.2.1, shown.2.2)] ∧
      stops.map (·.1) = shown.1.filter (!·.isOk) ∧
      ∀ p ∈ stops, ∃ results, StoppedAt name c l s results p := by
  induction n generalizing c l s with
  | zero => cases hn
  | succ n ih =>
    have hnone {rs : List (Except FeedError Unit)} (h : ∀ r ∈ rs, r.isOk = true) :
        rs.filter (!·.isOk) = [] :=
      List.filter_eq_nil_iff.2 fun r hr => by simp [h r hr]
    rw [listenAgain]
    rcases listenFor_cases name (Nat.lt_succ_self c.unread.length) l s with
      ⟨hall, hlisten⟩ | ⟨results, hall, hstop⟩
    · refine ⟨[], ?_, (hnone hall).symm, fun p hp => absurd hp List.not_mem_nil⟩
      rw [listen, hlisten]
      rcases Received.closing_cases c.unread with hok | ⟨e, herror⟩
      · simp only [hok, List.nil_append]
      · simp only [herror, List.nil_append]
    · change StoppedAt name c l s results (c.listen name l s) at hstop
      generalize c.listen name l s = p at hstop
      have hfirst := hstop
      obtain ⟨r, c', l', s'⟩ := p
      obtain ⟨before, t, payload, e, hunread, hsame, hopen, ht, rfl, hhandle⟩ := hstop
      simp only at hunread hsame hhandle
      have hlength : c'.unread.length < n := by
        rw [hunread, List.length_append, List.length_cons] at hn
        omega
      obtain ⟨stops, hagain, hresults, hstops⟩ := ih hlength l' s'
      have hpayloads : payloads name c.unread =
          (payloads name before ++ [payload]) ++ payloads name c'.unread := by
        rw [hunread, Received.payloads_append name hopen, Received.payloads_text ht]
        simp
      have hclosing : closing () c.unread = closing () c'.unread := by
        rw [hunread, Received.closing_append () hopen]
        rfl
      rw [hpayloads, Listener.handleAll_append, hhandle, hclosing]
      refine ⟨(.error (.render e), c', l', s') :: stops, ?_, ?_,
        List.forall_mem_cons.2 ⟨⟨results, hfirst⟩, fun q hq => ?_⟩⟩
      · simp only [hagain, List.cons_append, ← hsame]
      · simp only [List.map_cons, hresults, List.filter_append, hnone hall, List.nil_append,
          List.append_assoc]
        rfl
      · obtain ⟨later, hq⟩ := hstops q hq
        exact ⟨_, hfirst.trans hq⟩

/-- Where a call stopped, the log has the payloads up to the one that the region
has failed to show, and all behind its frame is unread. -/
theorem StoppedAt.logged {results : List (Except FeedError Unit)} {p : Call σ}
    (h : StoppedAt name c l s results p) :
    ∃ before t payload e, c.unread = before ++ .frame (.text t) :: p.2.1.unread ∧
      heard c.unread = heard before ++ t :: heard p.2.1.unread ∧
      Envelope.decodeEvent t name = some payload ∧
      p.2.2.1.messages = l.messages ++ payloads name before ++ [payload] ∧
      p.1 = .error (.render e) ∧ ∃ s₀, l.region (paragraphs p.2.2.1.messages) s₀ =
        (.error e, p.2.2.2) := by
  obtain ⟨before, t, payload, e, hunread, -, hopen, ht, he, hhandle⟩ := h
  have hall := l.messages_handleAll s (payloads name before ++ [payload])
  rw [hhandle, ← List.append_assoc] at hall
  rw [Listener.handleAll_concat] at hhandle
  have hlast : (l.handleAll s (payloads name before)).2.1.handle payload
      (l.handleAll s (payloads name before)).2.2 = (.error (.render e), p.2.2.1, p.2.2.2) := by
    simp only [Prod.mk.injEq] at hhandle
    obtain ⟨hresult, hlistener, hstate⟩ := hhandle
    exact Prod.ext (List.singleton_inj.1 (List.append_inj' hresult rfl).2)
      (Prod.ext hlistener hstate)
  obtain ⟨e', he', hregion⟩ := Listener.handle_eq_error hlast
  cases he'
  rw [Listener.region_handleAll] at hregion
  exact ⟨before, t, payload, e, hunread,
    by rw [hunread, Received.heard_append hopen]; rfl, ht, hall, he, _, hregion⟩

/-- **Nothing is lost and nothing comes twice** if listening goes on after each
payload that could not be shown.

Whatever the frames are and whenever the region fails, the calls do what handling
all payloads one after the other does.  Each call but the last stops at one of
the payloads that could not be shown; by then the log has the payloads up to it,
and what comes behind its frame is unread.  The last call comes to the end.  The
log is then the one that a single call has with a region that never fails; and
if the last payload was shown, all of them are. -/
theorem relistening (c : Client) (name : String) (l : Listener σ) (s : σ) :
    let shown := l.handleAll s (payloads name c.unread)
    (∃ stops, listenAgain name (c.unread.length + 1) c l s =
        stops ++ [(closing () c.unread, { c with unread := [] }, shown.2.1, shown.2.2)] ∧
      stops.map (·.1) = shown.1.filter (!·.isOk) ∧
      ∀ p ∈ stops, ∃ before t payload e, c.unread = before ++ .frame (.text t) :: p.2.1.unread ∧
        heard c.unread = heard before ++ t :: heard p.2.1.unread ∧
        Envelope.decodeEvent t name = some payload ∧
        p.2.2.1.messages = l.messages ++ payloads name before ++ [payload] ∧
        p.1 = .error (.render e) ∧ ∃ s₀, l.region (paragraphs p.2.2.1.messages) s₀ =
          (.error e, p.2.2.2)) ∧
    shown.2.1.messages = l.messages ++ payloads name c.unread ∧
    (∀ {τ : Type} (region : Region τ) (s₀ : τ), region.NeverFails →
      ∃ l' s', c.listen name ⟨region, l.log⟩ s₀ =
          (closing () c.unread, { c with unread := [] }, l', s') ∧
        l'.messages = shown.2.1.messages) ∧
    ∀ content, l.region.Replaces content → shown.1.getLast? = some (.ok ()) →
      content shown.2.2 = some (paragraphs shown.2.1.messages) := by
  intro shown
  have hmessages := l.messages_handleAll s (payloads name c.unread)
  refine ⟨?_, hmessages, fun region s₀ hregion => ?_,
    fun content hregion hlast => Listener.content_handleAll hregion hlast⟩
  · obtain ⟨stops, hagain, hresults, hstops⟩ :=
      listenAgain_eq name (Nat.lt_succ_self c.unread.length) l s
    refine ⟨stops, hagain, hresults, fun p hp => ?_⟩
    obtain ⟨results, hstop⟩ := hstops p hp
    exact hstop.logged
  · obtain ⟨l', s', hlisten, hlogged⟩ := listenFor_eq name (Nat.lt_succ_self c.unread.length)
      (l := ⟨region, l.log⟩) hregion s₀
    exact ⟨l', s', hlisten, hlogged.trans hmessages.symm⟩

/-- A client with two events to read, one of another name between them, and a
close frame behind them. -/
def sampleRow : Client := ⟨default, [.frame (.text (sampleMessage "name")),
  .frame (.text (sampleMessage "other")), .frame (.ping []),
  .frame (.text (sampleMessage "name")), .frame .close]⟩

theorem payloads_sampleRow : payloads "name" sampleRow.unread = ["a", "a"] := by
  let f (s : String) := Envelope.decodeEvent s "name"
  have hname : f (sampleMessage "name") = some "a" :=
    (decodeEvent_sampleMessage "name").trans (if_pos rfl)
  have hother : f (sampleMessage "other") = none :=
    (decodeEvent_sampleMessage "other").trans (if_neg (by decide))
  show [sampleMessage "name", sampleMessage "other", sampleMessage "name"].filterMap f = _
  rw [List.filterMap_cons_some hname, List.filterMap_cons_none hother,
    List.filterMap_cons_some hname, List.filterMap_nil]

/-- The first of two payloads cannot be shown.  A second call reads the rest, and
then both are shown; with a region in memory one call logs the same. -/
theorem relistening_after_first_of_two :
    ∃ stop last, listenAgain "name" 6 sampleRow (.of Listener.scripted) ([false], none) =
        [stop, last] ∧
      stop.1 = .error (.render .notFound) ∧ last.1 = .ok () ∧
      last.2.2.1.messages = ["a", "a"] ∧ last.2.2.2.2 = some "<p>a</p><p>a</p>" ∧
      ∃ c l s, sampleRow.listen "name" (.of Region.memory) none = (.ok (), c, l, s) ∧
        l.messages = ["a", "a"] := by
  obtain ⟨⟨stops, hcalls, hresults, -⟩, hmessages, hmemory, hcontent⟩ :=
    relistening sampleRow "name" (.of Listener.scripted) ([false], none)
  obtain ⟨l, s, hlisten, hsame⟩ := hmemory Region.memory none neverFails_memory
  have hshown := hcontent _ Listener.replaces_scripted
  rw [payloads_sampleRow] at hcalls hresults hmessages hsame hshown
  obtain ⟨stop, rfl⟩ : ∃ stop, stops = [stop] :=
    List.length_eq_one_iff.1 ((List.length_map _).symm.trans (congrArg List.length hresults))
  exact ⟨stop, _, hcalls, List.singleton_inj.1 hresults, rfl, hmessages, hshown rfl,
    _, l, s, hlisten, hsame⟩

end Client

end EventFeed
