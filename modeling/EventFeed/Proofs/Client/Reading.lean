import EventFeed.Client.Basic
import EventFeed.Proofs.Envelope.Messages

/-!
# EventFeed.Proofs.Client.Reading

What a client returns of the frames that a server sends.  Only the texts
before the end of the connection count, and how it ends (`Received.heard`,
`Received.closing`).  Each call takes the first text that carries the event it
asks for, and leaves to later calls what stands behind it (`Client.Reads`); so
no text is returned twice, and none that was passed over comes back.

A listener is handed every payload of one event in this way
(`Client.listenFor_eq`), as long as its region can show them; and whatever its
region, texts without its event make no difference to it
(`Client.listen_passes`).
-/

namespace EventFeed

/-! ## Frames -/

namespace Received

/-- The texts of a row of frames, up to its end. -/
def heard : List Received → List String
  | [] => []
  | .frame (.text s) :: rest => s :: heard rest
  | .frame .close :: _ => []
  | .frame (.binary _) :: rest | .frame (.ping _) :: rest | .frame (.pong _) :: rest => heard rest
  | .failed _ :: _ => []

/-- What is returned at the end of a row of frames: `x` if it was closed or
there is no more, and otherwise the failure. -/
def closing {α : Type} (x : α) : List Received → Except FeedError α
  | [] => .ok x
  | .frame .close :: _ => .ok x
  | .frame (.text _) :: rest => closing x rest
  | .frame (.binary _) :: rest | .frame (.ping _) :: rest | .frame (.pong _) :: rest =>
    closing x rest
  | .failed e :: _ => .error (.transport e)

/-- A row of frames ends well or with a failure. -/
theorem closing_cases (frames : List Received) :
    (∀ {α : Type} (x : α), closing x frames = .ok x) ∨
      ∃ e, ∀ {α : Type} (x : α), closing x frames = .error (.transport e) := by
  induction frames with
  | nil => exact .inl fun _ => rfl
  | cons f frames ih =>
    match f with
    | .failed e => exact .inr ⟨e, fun _ => rfl⟩
    | .frame .close => exact .inl fun _ => rfl
    | .frame (.text _) => exact ih
    | .frame (.binary _) => exact ih
    | .frame (.ping _) => exact ih
    | .frame (.pong _) => exact ih

end Received

open Received (heard closing)

/-- A region that can always show what it is given. -/
def Region.NeverFails {σ : Type} (region : Region σ) : Prop :=
  ∀ text s, (region text s).1 = .ok ()

namespace Client

/-! ## One call -/

/-- A call returns the payload of the first text that carries the event, and
keeps what stands behind it; if there is none, it comes to the end. -/
theorem nextIn_cases (name : String) (frames : List Received) :
    (∃ passed s payload rest, heard frames = passed ++ s :: heard rest ∧
      (∀ t ∈ passed, Envelope.decodeEvent t name = none) ∧
      Envelope.decodeEvent s name = some payload ∧
      (∀ {α : Type} (x : α), closing x frames = closing x rest) ∧
      nextIn name frames = (.ok (some payload), rest)) ∨
    (∀ t ∈ heard frames, Envelope.decodeEvent t name = none) ∧
      nextIn name frames = (closing none frames, []) := by
  induction frames with
  | nil => exact .inr ⟨fun t ht => absurd ht List.not_mem_nil, rfl⟩
  | cons f frames ih =>
    match f with
    | .failed e => exact .inr ⟨fun t ht => absurd ht List.not_mem_nil, rfl⟩
    | .frame .close => exact .inr ⟨fun t ht => absurd ht List.not_mem_nil, rfl⟩
    | .frame (.binary _) => exact ih
    | .frame (.ping _) => exact ih
    | .frame (.pong _) => exact ih
    | .frame (.text s) =>
      cases hs : Envelope.decodeEvent s name with
      | some payload =>
        have hnext : nextIn name (.frame (.text s) :: frames) = (.ok (some payload), frames) := by
          rw [nextIn, hs]
        exact .inl ⟨[], s, payload, frames, rfl, fun t ht => absurd ht List.not_mem_nil, hs,
          fun _ => rfl, hnext⟩
      | none =>
        have hnext : nextIn name (.frame (.text s) :: frames) = nextIn name frames := by
          rw [nextIn, hs]
        rw [hnext]
        rcases ih with ⟨passed, t, payload, rest, hheard, hpassed, ht, hclosing, hframes⟩ |
          ⟨hnone, hframes⟩
        · exact .inl ⟨s :: passed, t, payload, rest, congrArg (s :: ·) hheard,
            List.forall_mem_cons.2 ⟨hs, hpassed⟩, ht, hclosing, hframes⟩
        · exact .inr ⟨List.forall_mem_cons.2 ⟨hs, hnone⟩, hframes⟩

/-! ## Many calls -/

/-- Wait for events of these names, one after the other. -/
def nextEvents (c : Client) : List String → List (Except FeedError (Option String)) × Client
  | [] => ([], c)
  | name :: names =>
    let (got, c) := c.nextEvent name
    let (gots, c) := c.nextEvents names
    (got :: gots, c)

/-- What calls for these names return of a row of texts that ends with
`last`. -/
inductive Reads (last : Except FeedError (Option String)) :
    List String → List String → List (Except FeedError (Option String)) → Prop
  | done (texts : List String) : Reads last texts [] []
  /-- A call passes over texts, and returns the payload of one. -/
  | returned {passed texts names : List String} {s name payload : String}
      {results : List (Except FeedError (Option String))}
      (others : ∀ t ∈ passed, Envelope.decodeEvent t name = none)
      (mine : Envelope.decodeEvent s name = some payload) (later : Reads last texts names results) :
    Reads last (passed ++ s :: texts) (name :: names) (.ok (some payload) :: results)
  /-- A call finds no more.  It tells how the row ends, and later calls tell
  that there is no more. -/
  | ended {texts names : List String} {name : String}
      (others : ∀ t ∈ texts, Envelope.decodeEvent t name = none) :
    Reads last texts (name :: names) (last :: names.map fun _ => .ok none)

/-- There is no more behind the end. -/
theorem nextEvents_nil (e : Endpoint) (names : List String) :
    nextEvents ⟨e, []⟩ names = (names.map fun _ => .ok none, ⟨e, []⟩) := by
  induction names with
  | nil => rfl
  | cons name names ih =>
    have hnext : nextEvent ⟨e, []⟩ name = (.ok none, ⟨e, []⟩) := rfl
    rw [nextEvents, hnext]
    dsimp only
    rw [ih]
    rfl

/-- Calls return what they should. -/
theorem reads_nextEvents (c : Client) (names : List String) :
    Reads (closing none c.unread) (heard c.unread) names (c.nextEvents names).1 := by
  induction names generalizing c with
  | nil => exact .done _
  | cons name names ih =>
    rw [nextEvents, nextEvent]
    rcases nextIn_cases name c.unread with
      ⟨passed, s, payload, rest, hheard, hpassed, hs, hclosing, hnext⟩ | ⟨hnone, hnext⟩
    · rw [hheard, hclosing, hnext]
      exact .returned hpassed hs (ih { c with unread := rest })
    · rw [hnext]
      dsimp only
      rw [nextEvents_nil]
      exact .ended hnone

/-! ## Listening -/

/-- A payload that can be shown is logged, and that is all. -/
theorem handle_of_neverFails {σ : Type} {l : Listener σ} (h : l.region.NeverFails)
    (payload : String) (s : σ) :
    ∃ l' s', l.handle payload s = (.ok (), l', s') ∧ l'.region = l.region ∧
      l'.messages = l.messages ++ [payload] := by
  have hshown : (l.region (paragraphs (l.log.push payload).entries) s).1 = .ok () := h _ s
  refine ⟨_, _, Prod.ext ?_ rfl, rfl, rfl⟩
  rw [Listener.handle]
  dsimp only
  rw [hshown]
  rfl

/-- With fuel enough for each frame, every payload is handed over. -/
theorem listenFor_eq {σ : Type} (name : String) {fuel : Nat} {c : Client}
    (hfuel : c.unread.length < fuel) {l : Listener σ} (hl : l.region.NeverFails) (s : σ) :
    ∃ l' s', listenFor name fuel c l s = (closing () c.unread, { c with unread := [] }, l', s') ∧
      l'.messages = l.messages ++ (heard c.unread).filterMap (Envelope.decodeEvent · name) := by
  induction fuel generalizing c l s with
  | zero => cases hfuel
  | succ fuel ih =>
    rw [listenFor, nextEvent]
    rcases nextIn_cases name c.unread with
      ⟨passed, t, payload, rest, hheard, hpassed, ht, hclosing, hnext⟩ | ⟨hnone, hnext⟩
    · obtain ⟨l₁, s₁, hhandle, hregion, hmessages⟩ := handle_of_neverFails hl payload s
      have hlength : rest.length < fuel := Nat.lt_of_lt_of_le (length_nextIn hnext)
        (Nat.le_of_lt_succ hfuel)
      obtain ⟨l', s', hlisten, hlater⟩ := ih (c := { c with unread := rest }) hlength
        (hregion ▸ hl) s₁
      simp only [hnext, hhandle]
      refine ⟨l', s', by rw [hlisten, hclosing], ?_⟩
      have hothers : passed.filterMap (Envelope.decodeEvent · name) = [] :=
        List.filterMap_eq_nil_iff.2 hpassed
      have hpayloads : (heard c.unread).filterMap (Envelope.decodeEvent · name) =
          payload :: (heard rest).filterMap (Envelope.decodeEvent · name) := by
        rw [hheard, List.filterMap_append, hothers, List.nil_append, List.filterMap_cons]
        simp only [ht]
      rw [hlater, hmessages, hpayloads, List.append_assoc]
      rfl
    · have hothers : (heard c.unread).filterMap (Envelope.decodeEvent · name) = [] :=
        List.filterMap_eq_nil_iff.2 hnone
      refine ⟨l, s, ?_, by rw [hothers, List.append_nil]⟩
      rw [hnext]
      rcases Received.closing_cases c.unread with hok | ⟨e, herror⟩
      · simp only [hok]
      · simp only [herror]

/-! ## Texts that carry nothing -/

/-- A text that does not carry the event is passed over: a call returns the same
without it, and leaves the same, but for the text if it has not come there. -/
theorem nextIn_passes {t name : String} (ht : Envelope.decodeEvent t name = none)
    (before after : List Received) :
    (∃ rest, nextIn name (before ++ .frame (.text t) :: after) =
        ((nextIn name (before ++ after)).1, rest ++ .frame (.text t) :: after) ∧
      nextIn name (before ++ after) = ((nextIn name (before ++ after)).1, rest ++ after)) ∨
    nextIn name (before ++ .frame (.text t) :: after) = nextIn name (before ++ after) := by
  induction before with
  | nil =>
    right
    rw [List.nil_append, nextIn, ht]
    rfl
  | cons f before ih =>
    cases f with
    | failed e => exact .inr rfl
    | frame f =>
      cases f with
      | close => exact .inr rfl
      | binary bytes => exact ih
      | ping bytes => exact ih
      | pong bytes => exact ih
      | text s =>
        simp only [List.cons_append, nextIn]
        cases Envelope.decodeEvent s name with
        | some payload => exact .inl ⟨before, rfl, rfl⟩
        | none => exact ih

/-- Fuel enough for each frame is as good as more. -/
theorem listenFor_of_fuel {σ : Type} (name : String) {fuel fuel' : Nat} {c : Client}
    (h : c.unread.length < fuel) (h' : c.unread.length < fuel') (l : Listener σ) (s : σ) :
    listenFor name fuel c l s = listenFor name fuel' c l s := by
  induction fuel generalizing fuel' c l s with
  | zero => cases h
  | succ fuel ih =>
    cases fuel' with
    | zero => cases h'
    | succ fuel' =>
      rw [listenFor, listenFor, nextEvent]
      generalize hnext : nextIn name c.unread = p
      obtain ⟨got, rest⟩ := p
      match got with
      | .error e => rfl
      | .ok none => rfl
      | .ok (some payload) =>
        have hlength := length_nextIn hnext
        have hrest : rest.length < fuel := Nat.lt_of_lt_of_le hlength (Nat.le_of_lt_succ h)
        have hrest' : rest.length < fuel' := Nat.lt_of_lt_of_le hlength (Nat.le_of_lt_succ h')
        dsimp only
        generalize l.handle payload s = shown
        obtain ⟨result, l', s'⟩ := shown
        cases result with
        | error e => rfl
        | ok u => exact ih (c := { c with unread := rest }) hrest hrest' l' s'

theorem listenFor_passes {σ : Type} {t name : String} (ht : Envelope.decodeEvent t name = none)
    {fuel : Nat} (e : Endpoint) {before after : List Received}
    (hfuel : (before ++ .frame (.text t) :: after).length < fuel) (l : Listener σ) (s : σ) :
    (listenFor name fuel ⟨e, before ++ .frame (.text t) :: after⟩ l s).1 =
        (listenFor name fuel ⟨e, before ++ after⟩ l s).1 ∧
      (listenFor name fuel ⟨e, before ++ .frame (.text t) :: after⟩ l s).2.2 =
        (listenFor name fuel ⟨e, before ++ after⟩ l s).2.2 := by
  induction fuel generalizing before l s with
  | zero => cases hfuel
  | succ fuel ih =>
    rw [listenFor, listenFor, nextEvent, nextEvent]
    rcases nextIn_passes ht before after with ⟨rest, hwith, hwithout⟩ | hsame
    · dsimp only
      rw [hwith, hwithout]
      generalize (nextIn name (before ++ after)).1 = got at hwith hwithout
      match got with
      | .error f => exact ⟨rfl, rfl⟩
      | .ok none => exact ⟨rfl, rfl⟩
      | .ok (some payload) =>
        have hlength := Nat.lt_of_lt_of_le (length_nextIn hwith) (Nat.le_of_lt_succ hfuel)
        dsimp only
        generalize l.handle payload s = shown
        obtain ⟨result, l', s'⟩ := shown
        cases result with
        | error f => exact ⟨rfl, rfl⟩
        | ok u => exact ih hlength l' s'
    · dsimp only
      rw [hsame]
      exact ⟨rfl, rfl⟩

/-- **A listener does not notice a text that does not carry its event.** -/
theorem listen_passes {σ : Type} {t name : String} (ht : Envelope.decodeEvent t name = none)
    (e : Endpoint) (before after : List Received) (l : Listener σ) (s : σ) :
    (listen ⟨e, before ++ .frame (.text t) :: after⟩ name l s).1 =
        (listen ⟨e, before ++ after⟩ name l s).1 ∧
      (listen ⟨e, before ++ .frame (.text t) :: after⟩ name l s).2.2 =
        (listen ⟨e, before ++ after⟩ name l s).2.2 := by
  have hlength : (before ++ after).length < (before ++ .frame (.text t) :: after).length + 1 := by
    simp only [List.length_append, List.length_cons]
    omega
  have hfuel : listen ⟨e, before ++ after⟩ name l s = _ :=
    listenFor_of_fuel name (Nat.lt_succ_self _) hlength l s
  rw [hfuel]
  exact listenFor_passes ht e (Nat.lt_succ_self _) l s

/-- **What a client reads, and what it hands to a listener.**

Calls for any names, one after the other, return what they should of the texts
that come before the end.  Listening for one name hands the payloads of all
these texts to the listener, each once and in order, if the region can show
them; it ends as the connection does, and nothing is left to be read. -/
theorem reading :
    (∀ (c : Client) (names : List String),
      Reads (closing none c.unread) (heard c.unread) names (c.nextEvents names).1) ∧
    ∀ {σ : Type} (c : Client) (name : String) (l : Listener σ) (s : σ), l.region.NeverFails →
      ∃ l' s', c.listen name l s = (closing () c.unread, { c with unread := [] }, l', s') ∧
        l'.messages = l.messages ++ (heard c.unread).filterMap (Envelope.decodeEvent · name) :=
  ⟨reads_nextEvents, fun _ name _ s hl => listenFor_eq name (Nat.lt_succ_self _) hl s⟩

/-- A region in memory can show everything. -/
theorem neverFails_memory : Region.memory.NeverFails := fun _ _ => rfl

/-- The text of an event with this name. -/
def sampleMessage (name : String) : String :=
  (Envelope.ofEvent default (Event.publishedAt default .standard name (.string "a"))).text

theorem decodeEvent_sampleMessage (name : String) :
    Envelope.decodeEvent (sampleMessage name) "name" =
      if name = "name" then some "a" else none :=
  Envelope.decodeEvent_ofEvent (Event.readable_of_string ..) default "name"

/-- A client with two events to read, of which the first comes once more as
bytes, and then a failure. -/
def sampleClient : Client := ⟨default, [.frame (.text (sampleMessage "name")),
  .frame (.binary (Utf8.encode (sampleMessage "name"))), .frame (.text (sampleMessage "other")),
  .failed .alreadyClosed, .frame (.text (sampleMessage "name"))]⟩

/-- The listener gets one payload, and the failure is told. -/
theorem reading_until_failure :
    ∃ c l s, sampleClient.listen "name" (.of Region.memory) none =
        (.error (.transport .alreadyClosed), c, l, s) ∧ l.messages = ["a"] := by
  obtain ⟨l, s, hlisten, hmessages⟩ :=
    reading.2 sampleClient "name" (.of Region.memory) none neverFails_memory
  have hclosing : closing () sampleClient.unread = .error (.transport .alreadyClosed) := rfl
  have hheard : heard sampleClient.unread = [sampleMessage "name", sampleMessage "other"] := rfl
  rw [hclosing] at hlisten
  let f (s : String) := Envelope.decodeEvent s "name"
  have hname : f (sampleMessage "name") = some "a" :=
    (decodeEvent_sampleMessage "name").trans (if_pos rfl)
  have hother : f (sampleMessage "other") = none :=
    (decodeEvent_sampleMessage "other").trans (if_neg (by decide))
  have hpayloads : [sampleMessage "name", sampleMessage "other"].filterMap f = ["a"] :=
    (List.filterMap_cons_some hname).trans (congrArg _ (List.filterMap_cons_none hother))
  rw [hheard, hpayloads] at hmessages
  exact ⟨_, l, s, hlisten, hmessages⟩

end Client

end EventFeed
