import EventFeed.Proofs.Envelope.Messages
import EventFeed.Proofs.Gateway.Service

/-!
# EventFeed.Proofs.Gateway.Delivery

What one connection forwards.  The events of its namespace that were
published since it was opened are, at every moment, those whose envelopes it
has sent followed by those that lie ahead of its subscription in the channel
(`State.Feeds`).  Each step of the gateway keeps that, as long as nothing is
lost to the connection: a request that is answered 202 adds an event at the
end, and the task of the connection moves one from what lies ahead to what
was sent.

Only what listeners see of the texts is followed here, so the answers to
clients, which go out between the envelopes, do not count.
-/

namespace EventFeed

/-- At most one thing comes of one. -/
theorem filterMap_one {α β : Type} (f : α → Option β) (a : α) : [a].filterMap f = (f a).toList := by
  cases h : f a <;> simp [h]

/-! ## What listeners are shown -/

/-- What an event shows those who listen on the namespace for its name. -/
def Event.shownTo (n : Namespace) (name : String) (e : Event) : Option String :=
  if e.channel = n ∧ e.name = name then some (Envelope.dataText e.data) else none

/-- What a request to publish shows those who listen on the namespace for
the name: the data of the request, if its path is that of the namespace, and
its event has that name after trimming. -/
def EmitRequest.shownTo (n : Namespace) (name : String) (q : EmitRequest) : Option String :=
  if q.path = n.path ∧ trimText q.event = name then some (Envelope.dataText q.data) else none

/-- What a request asks for is shown to the same listeners. -/
theorem EmitRequest.shownTo_eq {now : Timestamp} {q : EmitRequest} {e : Event}
    (h : q.event? now = .ok e) (n : Namespace) (name : String) :
    q.shownTo n name = e.shownTo n name := by
  obtain ⟨m, hparse, -, -, rfl⟩ := event?_eq_ok_iff.1 h
  have hpath : q.path = n.path ↔ m = n := by
    constructor
    · intro hp
      rw [hp, Namespace.parse_path] at hparse
      exact (Except.ok.inj hparse).symm
    · rintro rfl
      exact (Namespace.path_of_parse hparse).symm
  exact ite_congr (propext (and_congr_left fun _ => hpath)) (fun _ => rfl) (fun _ => rfl)

/-- Is the data of a request such that its envelope can be read?  Its numbers
are integers, and it leaves room for the two objects around it. -/
structure EmitRequest.Plain (q : EmitRequest) : Prop where
  integers : q.data.AllIntegers
  shallow : q.data.depth + 2 ≤ Json.maxDepth

instance (q : EmitRequest) : Decidable q.Plain :=
  decidable_of_iff (q.data.AllIntegers ∧ q.data.depth + 2 ≤ Json.maxDepth)
    ⟨fun h => ⟨h.1, h.2⟩, fun h => ⟨h.integers, h.shallow⟩⟩

namespace Gateway

/-- The request to publish that an action carried, if it was accepted. -/
def Action.accepted? : Action → Option Answer → Option EmitRequest
  | .request _ r, some (.response response) =>
    if response.status = 202 then (emitRequest r).toOption else none
  | _, _ => none

theorem Action.accepted?_of_isQuiet {o : Option Answer} (h : isQuiet o = true) (a : Action) :
    a.accepted? o = none := by
  unfold Action.accepted?
  split
  · exact if_neg (bne_iff_ne.1 h)
  · rfl

/-- What the texts of a connection show those who listen for the name. -/
def Connection.shows (name : String) (c : Connection) : List String :=
  c.sent.filterMap fun text => Envelope.decodeEvent text name

theorem Connection.shows_of_sent {c t : Connection} (h : t.sent = c.sent) (name : String) :
    t.shows name = c.shows name := by
  rw [shows, shows, h]

/-- A text that is sent shows what it shows behind all others. -/
theorem Connection.shows_of_send {c t : Connection} {text : String} (h : t.sent = c.sent ++ [text])
    (name : String) :
    t.shows name = c.shows name ++ (Envelope.decodeEvent text name).toList := by
  rw [shows, h, List.filterMap_append, ← shows, filterMap_one]

/-- The answer to a client shows nothing. -/
theorem decodeEvent_replyTo (now : Timestamp) (s name : String) :
    Envelope.decodeEvent (replyTo now s).text name = none := by
  rw [replyTo]
  split
  · exact Envelope.decodeEvent_refusal now _ (by decide) _ _
  · exact Envelope.decodeEvent_refusal now _ (by decide) _ _

/-- A task that reads from its client sends nothing that listeners see. -/
theorem decodeEvent_of_ofClient {fresh : Fresh} {m : Incoming} {text : String}
    (h : react fresh (.ofClient m) = .send text) (name : String) :
    Envelope.decodeEvent text name = none := by
  cases m with
  | failed => cases h
  | ended => cases h
  | frame f =>
    cases f with
    | text s =>
      have htext : (replyTo fresh.now s).text = text := Reaction.send.inj h
      rw [← htext]
      exact decodeEvent_replyTo _ _ _
    | binary bytes => cases h
    | ping bytes => cases h
    | pong bytes => cases h
    | close => cases h

namespace State

/-! ## Following one connection -/

/-- How many events entered the channel and lie ahead of a connection; none
if it does not run. -/
def outstanding (g : State) (i : Nat) : Nat :=
  match g.open? i with
  | some c => g.bus.channel.sent - c.subscription.receiver.next
  | none => 0

/-- What was published for a connection since it was opened: as long as it
runs, what its texts show and what lies ahead of it, in this order. -/
structure Feeds (g : State) (i : Nat) (n : Namespace) (name : String) (slots : Nat)
    (log : List Event) (shown : List String) : Prop where
  serves : g.bus.Serves g.subscriptions log
  slots_eq : g.bus.channel.slots = slots
  known : i < g.connections.length
  current : ∀ c, g.open? i = some c → c.subscription.channel = n ∧
    (∀ e ∈ log.drop c.subscription.receiver.next, e.Readable) ∧
    c.shows name ++ (log.drop c.subscription.receiver.next).filterMap (Event.shownTo n name) = shown

variable {g : State} {i j : Nat} {n : Namespace} {name : String} {slots : Nat} {log : List Event}
  {shown : List String} {c t : Connection}

theorem open?_put_self {t : Connection} (h : i < g.connections.length) (hopen : t.isOpen = true) :
    (g.put i t).open? i = some t := by
  simp [open?, put, h, hopen]

theorem open?_put_ne (h : j ≠ i) (t : Connection) : (g.put j t).open? i = g.open? i := by
  simp [open?, put, List.getElem?_set_ne h]

theorem open?_finish_self (h : i < g.connections.length) (t : Connection) :
    (g.finish i t).open? i = none := by
  simp [open?, finish, h]

theorem open?_finish_ne (h : j ≠ i) (t : Connection) : (g.finish j t).open? i = g.open? i := by
  simp [open?, finish, List.getElem?_set_ne h]

/-! ## Single changes -/

/-- A connection changes in something that neither its subscription nor its
listeners notice. -/
theorem Feeds.put (h : Feeds g i n name slots log shown) (hj : g.connections[j]? = some c)
    (hheld : t.held = c.held) (hshows : t.shows name = c.shows name) :
    Feeds (g.put j t) i n name slots log shown where
  serves := serves_put h.serves hj hheld
  slots_eq := h.slots_eq
  known := by
    rw [State.put, List.length_set]
    exact h.known
  current := by
    intro d hd
    by_cases hij : j = i
    · subst hij
      obtain ⟨hget, hdopen⟩ := open?_eq_some_iff.1 hd
      rw [State.put, List.getElem?_set_self h.known] at hget
      obtain rfl := Option.some.inj hget
      have hheld' : c.held = some t.subscription := by rw [← hheld, Connection.held, if_pos hdopen]
      obtain ⟨hopen, hsubscription⟩ := Connection.held_eq_some_iff.1 hheld'
      rw [← hsubscription, hshows]
      exact h.current c (open?_eq_some_iff.2 ⟨hj, hopen⟩)
    · rw [open?_put_ne hij] at hd
      exact h.current d hd

/-- A task ends. -/
theorem Feeds.finish (h : Feeds g i n name slots log shown) (hj : g.open? j = some c)
    (hchannel : t.subscription.channel = c.subscription.channel) :
    Feeds (g.finish j t) i n name slots log shown where
  serves := serves_finish h.serves hj hchannel
  slots_eq := h.slots_eq
  known := by
    rw [State.finish, List.length_set]
    exact h.known
  current := by
    intro d hd
    by_cases hij : j = i
    · subst hij
      rw [open?_finish_self h.known] at hd
      cases hd
    · rw [open?_finish_ne hij] at hd
      exact h.current d hd

/-- Another connection is opened. -/
theorem Feeds.join (h : Feeds g i n name slots log shown) (m : Namespace) :
    Feeds ⟨(g.bus.join m).1, g.connections ++ [Connection.opened (g.bus.join m).2]⟩ i n name slots
      log shown where
  serves := serves_join h.serves m
  slots_eq := h.slots_eq
  known := by
    rw [List.length_append]
    exact Nat.lt_add_right _ h.known
  current := by
    intro d hd
    refine h.current d ?_
    rw [open?_eq_some_iff] at hd ⊢
    rwa [List.getElem?_append_left h.known] at hd

/-- An event is published.  If the connection runs, its namespace has a
listener, so an event on that namespace enters the channel. -/
theorem Feeds.publish (h : Feeds g i n name slots log shown) {e : Event} (he : e.Readable) :
    Feeds { g with bus := (g.bus.publish e).1 } i n name slots (log ++ g.bus.entering e)
      (shown ++ (e.shownTo n name).toList) where
  serves := h.serves.publish e
  slots_eq := by
    rw [Bus.slots_publish]
    exact h.slots_eq
  known := h.known
  current := by
    intro d hd
    obtain ⟨hchannel, hreadable, hshown⟩ := h.current d hd
    have hmem := mem_subscriptions hd
    have hwithin := h.serves.within _ hmem
    -- the connection is itself a listener, so what is meant for it gets past the gate
    have hpos := h.serves.listenerCount_pos hmem
    rw [hchannel] at hpos
    have henters : (g.bus.entering e).filterMap (Event.shownTo n name) =
        (e.shownTo n name).toList := by
      rw [Bus.entering]
      split
      · exact filterMap_one _ e
      · next hnone =>
        have hother : e.channel ≠ n := fun heq => hnone (heq ▸ hpos)
        rw [Event.shownTo, if_neg fun hboth => hother hboth.1]
        rfl
    rw [List.drop_append_of_le_length hwithin]
    refine ⟨hchannel, fun x hx => ?_, ?_⟩
    · rcases List.mem_append.1 hx with hx | hx
      · exact hreadable x hx
      · rw [Bus.entering] at hx
        split at hx
        · exact List.mem_singleton.1 hx ▸ he
        · cases hx
    · rw [List.filterMap_append, ← List.append_assoc, hshown, henters]

/-- A task receives and goes on.  If it is the task of the connection itself,
what it forwards is what no longer lies ahead. -/
theorem Feeds.receive (h : Feeds g i n name slots log shown) (hj : g.open? j = some c)
    (hheld : t.held = some (c.subscription.receive g.bus).2)
    (hmoved : j = i →
      (∀ e ∈ log.drop (c.subscription.receive g.bus).2.receiver.next,
        e ∈ log.drop c.subscription.receiver.next) ∧
      c.shows name ++ (log.drop c.subscription.receiver.next).filterMap (Event.shownTo n name) =
        t.shows name ++ (log.drop (c.subscription.receive g.bus).2.receiver.next).filterMap
          (Event.shownTo n name)) :
    Feeds (g.put j t) i n name slots log shown where
  serves := serves_received h.serves hj hheld
  slots_eq := h.slots_eq
  known := by
    rw [State.put, List.length_set]
    exact h.known
  current := by
    intro d hd
    by_cases hij : j = i
    · subst hij
      obtain ⟨hopen, hsubscription⟩ := Connection.held_eq_some_iff.1 hheld
      rw [open?_put_self h.known hopen] at hd
      obtain rfl := Option.some.inj hd
      obtain ⟨hchannel, hreadable, hall⟩ := h.current c hj
      obtain ⟨hrest, hshown⟩ := hmoved rfl
      rw [hsubscription]
      exact ⟨hchannel, fun e he => hreadable e (hrest e he), hshown ▸ hall⟩
    · rw [open?_put_ne hij] at hd
      exact h.current d hd

/-! ## Receiving -/

/-- What is not wanted is not shown. -/
theorem filterMap_shownTo_others {es : List Event} (h : ∀ e ∈ es, (e.channel == n) = false) :
    es.filterMap (Event.shownTo n name) = [] := by
  refine List.filterMap_eq_nil_iff.2 fun e he => ?_
  have hother : e.channel ≠ n := by simpa using h e he
  rw [Event.shownTo, if_neg fun hboth => hother hboth.1]

/-- A reception without a lag moves what is shown: what the text shows that
the task sends then, if it sends one, is what no longer lies ahead. -/
theorem shown_of_takes (name : String) {closed : Bool} {ahead rest : List Event}
    {got : Reception Event}
    (h : Channel.Takes slots (·.channel == n) closed ahead got rest) (hle : ahead.length ≤ slots)
    (hreadable : ∀ e ∈ ahead, e.Readable) (fresh : Fresh) :
    (∀ e ∈ rest, e ∈ ahead) ∧
    (react fresh (.ofBus got) = .nothing →
      ahead.filterMap (Event.shownTo n name) = rest.filterMap (Event.shownTo n name)) ∧
    ∀ text, react fresh (.ofBus got) = .send text →
      ahead.filterMap (Event.shownTo n name) =
        (Envelope.decodeEvent text name).toList ++ rest.filterMap (Event.shownTo n name) := by
  cases h with
  | lagged behind => exact absurd hle (Nat.not_le.2 behind)
  | @item passed rest e current others mine =>
    refine ⟨fun x hx => by simp [hx], fun hreact => (by cases hreact), fun text hreact => ?_⟩
    have htext : (Envelope.ofEvent fresh.id e).text = text := Reaction.send.inj hreact
    have hchannel : e.channel = n := by simpa using mine
    have hshown : Envelope.decodeEvent text name = e.shownTo n name := by
      rw [← htext, Envelope.decodeEvent_ofEvent (hreadable e (by simp)), Event.shownTo]
      simp only [hchannel, true_and]
    rw [List.filterMap_append, filterMap_shownTo_others others, List.nil_append, hshown,
      ← filterMap_one, ← List.filterMap_append]
    rfl
  | nothing current others =>
    refine ⟨fun x hx => (List.not_mem_nil hx).elim, fun _ => filterMap_shownTo_others others,
      fun text hreact => ?_⟩
    cases closed <;> cases hreact

/-- So it is when the connection itself receives while the slots hold what is
outstanding. -/
theorem Feeds.shown_of_receive (h : Feeds g i n name slots log shown) (hi : g.open? i = some c)
    (hle : g.outstanding i ≤ slots) (fresh : Fresh) :
    let got := (c.subscription.receive g.bus).1
    let ahead := log.drop c.subscription.receiver.next
    let rest := log.drop (c.subscription.receive g.bus).2.receiver.next
    (∀ e ∈ rest, e ∈ ahead) ∧
    (react fresh (.ofBus got) = .nothing →
      ahead.filterMap (Event.shownTo n name) = rest.filterMap (Event.shownTo n name)) ∧
    ∀ text, react fresh (.ofBus got) = .send text →
      ahead.filterMap (Event.shownTo n name) =
        (Envelope.decodeEvent text name).toList ++ rest.filterMap (Event.shownTo n name) := by
  intro got ahead rest
  obtain ⟨rfl, hreadable, -⟩ := h.current c hi
  have htakes := h.serves.takes (mem_subscriptions hi)
  have hahead : ahead.length ≤ slots := by
    rw [outstanding, hi, h.serves.holds.sent_eq] at hle
    rwa [List.length_drop]
  rw [h.slots_eq] at htakes
  exact shown_of_takes name htakes hahead hreadable fresh

/-! ## Steps -/

/-- An event that was asked for by a plain request can be read. -/
theorem readable_of_plain {now : Timestamp} {r : Http.Request} {q : EmitRequest} {e : Event}
    (hq : emitRequest r = .ok q) (he : q.event? now = .ok e) (hplain : q.Plain) : e.Readable := by
  obtain ⟨m, -, -, -, rfl⟩ := EmitRequest.event?_eq_ok_iff.1 he
  exact ⟨hplain.integers, ordered_of_emitRequest hq, hplain.shallow⟩

/-- One step adds to what was published for the connection what the step
published for it. -/
theorem Feeds.step (h : Feeds g i n name slots log shown) (fresh : Fresh) {a : Action}
    (hdirect : ∀ e, a ≠ .publish e) (hle : a = .readBus i → g.outstanding i ≤ slots)
    (hplain : ∀ q ∈ a.accepted? (g.step fresh a).2, q.Plain) :
    ∃ log', Feeds (g.step fresh a).1 i n name slots log'
      (shown ++ ((a.accepted? (g.step fresh a).2).bind (·.shownTo n name)).toList) := by
  have heffect := effect_step g fresh a
  generalize g.step fresh a = p at heffect hplain ⊢
  have hsame : Feeds g i n name slots log (shown ++ []) := by rwa [List.append_nil]
  cases heffect with
  | nothing quiet =>
    rw [Action.accepted?_of_isQuiet quiet]
    exact ⟨log, hsame⟩
  | @accept upgradable r q e response read asks status =>
    have haccepted : (Action.request upgradable r).accepted? (some (.response response)) =
        some q := by
      rw [Action.accepted?, if_pos status, read]
      rfl
    rw [haccepted] at hplain
    rw [haccepted, Option.bind_some, q.shownTo_eq asks]
    exact ⟨_, h.publish (readable_of_plain read asks (hplain q rfl))⟩
  | join m => exact ⟨log, hsame.join m⟩
  | change there held sent =>
    rw [Action.accepted?_of_isQuiet rfl]
    exact ⟨log, hsame.put there held (Connection.shows_of_sent sent name)⟩
  | reply there held reacts sent =>
    refine ⟨log, hsame.put there held ?_⟩
    rw [Connection.shows_of_send sent, decodeEvent_of_ofClient reacts, Option.toList_none,
      List.append_nil]
  | finish there channel =>
    rw [Action.accepted?_of_isQuiet rfl]
    exact ⟨log, hsame.finish there channel⟩
  | @skip j c t there held reacts sent =>
    refine ⟨log, hsame.receive there held fun hj => ?_⟩
    subst hj
    obtain ⟨hrest, hnothing, -⟩ := h.shown_of_receive there (hle rfl) fresh
    rw [Connection.shows_of_sent sent, hnothing reacts]
    exact ⟨hrest, rfl⟩
  | @forward j c t text there held reacts sent =>
    refine ⟨log, hsame.receive there held fun hj => ?_⟩
    subst hj
    obtain ⟨hrest, -, hsend⟩ := h.shown_of_receive there (hle rfl) fresh
    rw [Connection.shows_of_send sent, List.append_assoc, ← hsend text reacts]
    exact ⟨hrest, rfl⟩
  | publish e => exact absurd rfl (hdirect e)
  | shutdown => exact ⟨log, hsame.serves.dropHandle, hsame.slots_eq, hsame.known, hsame.current⟩

/-! ## Runs -/

/-- What those who listen on the namespace for the name are to be shown of
the requests of a run that were answered 202. -/
def payloads (n : Namespace) (name : String) (steps : List (Fresh × Action))
    (answers : List (Option Answer)) : List String :=
  (steps.zip answers).filterMap fun p => (p.1.2.accepted? p.2).bind (·.shownTo n name)

theorem payloads_cons (n : Namespace) (name : String) (p : Fresh × Action)
    (steps : List (Fresh × Action)) (o : Option Answer) (answers : List (Option Answer)) :
    payloads n name (p :: steps) (o :: answers) =
      ((p.2.accepted? o).bind (·.shownTo n name)).toList ++ payloads n name steps answers := by
  rw [payloads, payloads, List.zip_cons_cons, ← List.singleton_append, List.filterMap_append,
    filterMap_one]

/-- A whole run adds what it published for the connection, if the slots hold
what is outstanding whenever the connection receives. -/
theorem Feeds.run (h : Feeds g i n name slots log shown) {steps : List (Fresh × Action)}
    (hdirect : ∀ fresh e, (fresh, Action.publish e) ∉ steps)
    (hle : ∀ done fresh later, steps = done ++ (fresh, .readBus i) :: later →
      (g.run done).1.outstanding i ≤ slots)
    (hplain : ∀ p ∈ steps.zip (g.run steps).2, ∀ q ∈ p.1.2.accepted? p.2, q.Plain) :
    ∃ log', Feeds (g.run steps).1 i n name slots log'
      (shown ++ payloads n name steps (g.run steps).2) := by
  induction steps generalizing g log shown with
  | nil => exact ⟨log, by simpa [State.run, payloads] using h⟩
  | cons p rest ih =>
    obtain ⟨fresh, a⟩ := p
    have hrun : g.run ((fresh, a) :: rest) =
        (((g.step fresh a).1.run rest).1,
          (g.step fresh a).2 :: ((g.step fresh a).1.run rest).2) := rfl
    rw [hrun] at hplain ⊢
    rw [List.zip_cons_cons] at hplain
    obtain ⟨log₁, hfirst⟩ := h.step fresh (a := a)
      (fun e he => hdirect fresh e (he ▸ List.mem_cons_self))
      (fun he => hle [] fresh rest (he ▸ rfl))
      (fun q hq => hplain _ List.mem_cons_self q hq)
    obtain ⟨log₂, hlast⟩ := ih hfirst
      (fun f e hmem => hdirect f e (List.mem_cons_of_mem _ hmem))
      (fun done f later heq => hle ((fresh, a) :: done) f later (by rw [heq]; rfl))
      (fun q hq => hplain q (List.mem_cons_of_mem _ hq))
    rw [List.append_assoc] at hlast
    refine ⟨log₂, ?_⟩
    rw [payloads_cons]
    exact hlast

/-! ## Since a connection was opened -/

/-- The state of a run from a new gateway of this capacity, right after a
request opened the connection `i` on the namespace. -/
def Joined (g : State) (capacity : Nat) (n : Namespace) (i : Nat) : Prop :=
  ∃ g₀ before fresh upgradable r s, start capacity = .ok g₀ ∧
    (g₀.run before).1.step fresh (.request upgradable r) = (g, some (.upgrade s)) ∧
    s.channel = n ∧ i = (g₀.run before).1.connections.length

/-- At first, nothing was published for the connection. -/
theorem Joined.feeds {capacity : Nat} (h : g.Joined capacity n i) (name : String) :
    ∃ log, Feeds g i n name (slotsFor (max capacity 1)) log [] := by
  obtain ⟨g₀, before, fresh, upgradable, r, s, hstart, hjoin, rfl, rfl⟩ := h
  have hreached : Reached capacity (g₀.run before).1 := ⟨g₀, before, hstart, rfl⟩
  generalize (g₀.run before).1 = g₁ at hreached hjoin
  obtain ⟨⟨log, hs⟩, hslots⟩ := hreached.serves
  have heffect := effect_step g₁ fresh (.request upgradable r)
  rw [hjoin] at heffect
  cases heffect with
  | nothing quiet => cases quiet
  | join m =>
    refine ⟨log, serves_join hs m, hslots, ?_, fun c hc => ?_⟩
    · rw [List.length_append]
      exact Nat.lt_add_one _
    · obtain ⟨hget, -⟩ := open?_eq_some_iff.1 hc
      simp only [List.getElem?_concat_length, Option.some.injEq] at hget
      subst hget
      have hdrop :
          log.drop (Connection.opened (g₁.bus.join m).2).subscription.receiver.next = [] := by
        show log.drop g₁.bus.channel.sent = []
        rw [hs.holds.sent_eq, List.drop_length]
      rw [hdrop]
      exact ⟨rfl, fun e he => (List.not_mem_nil he).elim, rfl⟩

/-- What happens to a connection since it was opened: events come by
requests only, and those that are accepted are plain. -/
structure Attends (g : State) (capacity : Nat) (n : Namespace) (i : Nat)
    (after : List (Fresh × Action)) : Prop where
  joined : g.Joined capacity n i
  requested : ∀ fresh e, (fresh, Action.publish e) ∉ after
  plain : ∀ p ∈ after.zip (g.run after).2, ∀ q ∈ p.1.2.accepted? p.2, q.Plain

/-- The connection keeps up: whenever its task receives, the slots hold what
is outstanding. -/
structure KeepsUp (g : State) (capacity : Nat) (n : Namespace) (i : Nat)
    (after : List (Fresh × Action)) : Prop extends Attends g capacity n i after where
  current : ∀ done fresh later, after = done ++ (fresh, .readBus i) :: later →
    (g.run done).1.outstanding i ≤ slotsFor (max capacity 1)

/-- When the connection has forwarded everything, its texts show what was
published for it. -/
theorem KeepsUp.shows_eq {capacity : Nat} {after : List (Fresh × Action)}
    (h : g.KeepsUp capacity n i after) (hopen : (g.run after).1.open? i = some c)
    (hpending : (c.subscription.receive (g.run after).1.bus).1 = .pending) (name : String) :
    c.shows name = payloads n name after (g.run after).2 := by
  obtain ⟨log, hf⟩ := h.joined.feeds name
  obtain ⟨log', hlast⟩ := hf.run h.requested h.current h.plain
  obtain ⟨rfl, -, hshown⟩ := hlast.current c hopen
  have htakes := hlast.serves.takes (mem_subscriptions hopen)
  rw [hpending] at htakes
  have hnone : (log'.drop c.subscription.receiver.next).filterMap
      (Event.shownTo c.subscription.channel name) = [] := by
    generalize log'.drop c.subscription.receiver.next = ahead at htakes
    exact filterMap_shownTo_others htakes.others_of_pending
  rw [hnone, List.append_nil, List.nil_append] at hshown
  exact hshown

end State

end Gateway

end EventFeed
