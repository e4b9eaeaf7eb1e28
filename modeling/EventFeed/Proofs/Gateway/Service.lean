import EventFeed.Gateway.Run
import EventFeed.Proofs.Bus.Books
import EventFeed.Proofs.Gateway.Emission

/-!
# EventFeed.Proofs.Gateway.Service

The gateway keeps the books of its bus: whatever happens, the bus serves the
subscriptions of exactly the connections that run
(`State.serves_run`).  A task that ends gives up its subscription, and every
other change of a connection leaves the subscription where it is.
-/

namespace EventFeed

namespace Gateway

/-! ## Answers -/

/-- Does the answer, if there is one, tell of nothing that a request has
done? -/
def isQuiet : Option Answer → Bool
  | none => true
  | some (.response response) => response.status != 202
  | some (.upgrade _) => false

/-! ## Connections by number -/

/-- The subscription of a connection, while it runs. -/
def Connection.held (c : Connection) : Option Subscription :=
  if c.isOpen then some c.subscription else none

theorem Connection.held_eq_some_iff {c : Connection} {s : Subscription} :
    c.held = some s ↔ c.isOpen = true ∧ c.subscription = s := by
  rw [held, Option.ite_none_right_eq_some, Option.some.injEq]

namespace State

/-- The subscriptions of the connections that run. -/
def subscriptions (g : State) : List Subscription := g.connections.filterMap Connection.held

variable {g : State} {i j : Nat} {c t : Connection} {log : List Event}

theorem open?_eq_some_iff : g.open? i = some c ↔ g.connections[i]? = some c ∧ c.isOpen = true := by
  rw [open?, Option.filter_eq_some_iff]

theorem held_of_open (h : g.open? i = some c) : c.held = some c.subscription := by
  rw [Connection.held, if_pos (open?_eq_some_iff.1 h).2]

/-- The subscription of a connection that runs stands among those served, and
what a connection in its place holds stands there too. -/
theorem exists_subscriptions_split (h : g.open? i = some c) :
    ∃ xs ys, g.subscriptions = xs ++ c.subscription :: ys ∧
      ∀ t : Connection, (g.connections.set i t).filterMap Connection.held =
        xs ++ (t.held.toList ++ ys) :=
  filterMap_set_split (open?_eq_some_iff.1 h).1 (held_of_open h)

theorem mem_subscriptions (h : g.open? i = some c) : c.subscription ∈ g.subscriptions := by
  obtain ⟨xs, ys, hsplit, -⟩ := exists_subscriptions_split h
  rw [hsplit]
  simp

/-- A connection that holds the same keeps all subscriptions the same. -/
theorem subscriptions_put (h : g.connections[i]? = some c) (hheld : t.held = c.held) :
    (g.put i t).subscriptions = g.subscriptions := by
  have hmap : (g.connections.set i t).map Connection.held = g.connections.map Connection.held := by
    rw [List.map_set, hheld]
    refine List.ext_getElem? fun k => ?_
    rw [List.getElem?_set]
    split
    · next hik =>
      subst hik
      obtain ⟨hlt, hget⟩ := List.getElem?_eq_some_iff.1 h
      simp [hlt, hget]
    · rfl
  have hid (cs : List Connection) :
      cs.filterMap Connection.held = (cs.map Connection.held).filterMap id := by
    rw [List.filterMap_map]
    rfl
  rw [subscriptions, subscriptions, put, hid, hid, hmap]

/-! ## Single changes -/

/-- A connection that holds the same is served the same. -/
theorem serves_put (hs : g.bus.Serves g.subscriptions log) (h : g.connections[i]? = some c)
    (hheld : t.held = c.held) : (g.put i t).bus.Serves (g.put i t).subscriptions log := by
  rw [subscriptions_put h hheld]
  exact hs

/-- A task that ends gives up its subscription. -/
theorem serves_finish (hs : g.bus.Serves g.subscriptions log) (h : g.open? i = some c)
    (hchannel : t.subscription.channel = c.subscription.channel) :
    (g.finish i t).bus.Serves (g.finish i t).subscriptions log := by
  obtain ⟨xs, ys, hsplit, hset⟩ := exists_subscriptions_split h
  rw [hsplit] at hs
  have hleave : g.bus.leave t.subscription = g.bus.leave c.subscription := by
    rw [Bus.leave, Bus.leave, hchannel]
  have hrest : (g.finish i t).subscriptions = xs ++ ys := hset _
  rw [hrest]
  show (g.bus.leave t.subscription).Serves _ _
  rw [hleave]
  exact hs.leave

/-- A task that has received goes on with its subscription moved. -/
theorem serves_received (hs : g.bus.Serves g.subscriptions log) (h : g.open? i = some c)
    (hheld : t.held = some (c.subscription.receive g.bus).2) :
    (g.put i t).bus.Serves (g.put i t).subscriptions log := by
  obtain ⟨xs, ys, hsplit, hset⟩ := exists_subscriptions_split h
  rw [hsplit] at hs
  have hrest : (g.put i t).subscriptions = xs ++ (c.subscription.receive g.bus).2 :: ys := by
    rw [subscriptions, put, hset, hheld]
    rfl
  rw [hrest]
  exact hs.receive

/-- What a task does about something: it ends, or goes on and has perhaps
sent a text. -/
theorem apply_cases (g : State) (fresh : Fresh) (i : Nat) (t : Connection) (s : Stimulus) :
    g.apply fresh i t s = g.finish i t ∨
    (react fresh s = .nothing ∧ g.apply fresh i t s = g.put i t) ∨
    ∃ text, react fresh s = .send text ∧ g.apply fresh i t s = g.put i (t.send text) := by
  rw [apply]
  cases hreact : react fresh s with
  | nothing => exact .inr (.inl ⟨rfl, rfl⟩)
  | finish => exact .inl rfl
  | send text =>
    dsimp only
    split
    · exact .inr (.inr ⟨text, rfl, rfl⟩)
    · exact .inl rfl

/-- A connection that is opened is served from then on. -/
theorem serves_join (hs : g.bus.Serves g.subscriptions log) (n : Namespace) :
    (g.bus.join n).1.Serves
      (subscriptions ⟨(g.bus.join n).1, g.connections ++ [Connection.opened (g.bus.join n).2]⟩)
      log := by
  have hsubs : (g.connections ++ [Connection.opened (g.bus.join n).2]).filterMap Connection.held =
      g.subscriptions ++ [(g.bus.join n).2] := by
    rw [List.filterMap_append]
    rfl
  rw [subscriptions, hsubs]
  exact hs.join n

/-! ## Steps -/

/-- What a step does to the gateway, and its answer.  Most of what happens
puts another connection in the place of one that holds the same. -/
inductive Effect (g : State) (fresh : Fresh) : Action → State × Option Answer → Prop where
  | nothing {a : Action} {o : Option Answer} (quiet : isQuiet o = true) : Effect g fresh a (g, o)
  /-- A request is accepted, and its event published. -/
  | accept {upgradable : Bool} {r : Http.Request} {q : EmitRequest} {e : Event}
      {response : Http.Response} (read : emitRequest r = .ok q) (asks : q.event? fresh.now = .ok e)
      (status : response.status = 202) :
    Effect g fresh (.request upgradable r)
      ({ g with bus := (g.bus.publish e).1 }, some (.response response))
  /-- A connection is opened. -/
  | join {upgradable : Bool} {r : Http.Request} (n : Namespace) :
    Effect g fresh (.request upgradable r)
      (⟨(g.bus.join n).1, g.connections ++ [Connection.opened (g.bus.join n).2]⟩,
        some (.upgrade (g.bus.join n).2))
  /-- A connection changes in something, but has sent no more. -/
  | change {a : Action} {j : Nat} {c t : Connection} (there : g.connections[j]? = some c)
      (held : t.held = c.held) (sent : t.sent = c.sent) :
    Effect g fresh a (g.put j t, none)
  /-- A task answers its client. -/
  | reply {j : Nat} {c t : Connection} {m : Incoming} {text : String}
      (there : g.connections[j]? = some c) (held : t.held = c.held)
      (reacts : react fresh (.ofClient m) = .send text) (sent : t.sent = c.sent ++ [text]) :
    Effect g fresh (.readClient j) (g.put j t, none)
  /-- A task ends. -/
  | finish {a : Action} {j : Nat} {c t : Connection} (there : g.open? j = some c)
      (channel : t.subscription.channel = c.subscription.channel) :
    Effect g fresh a (g.finish j t, none)
  /-- A task receives something that it passes over. -/
  | skip {j : Nat} {c t : Connection} (there : g.open? j = some c)
      (held : t.held = some (c.subscription.receive g.bus).2)
      (reacts : react fresh (.ofBus (c.subscription.receive g.bus).1) = .nothing)
      (sent : t.sent = c.sent) :
    Effect g fresh (.readBus j) (g.put j t, none)
  /-- A task receives something and forwards it. -/
  | forward {j : Nat} {c t : Connection} {text : String} (there : g.open? j = some c)
      (held : t.held = some (c.subscription.receive g.bus).2)
      (reacts : react fresh (.ofBus (c.subscription.receive g.bus).1) = .send text)
      (sent : t.sent = c.sent ++ [text]) :
    Effect g fresh (.readBus j) (g.put j t, none)
  | publish (e : Event) :
    Effect g fresh (.publish e) ({ g with bus := (g.bus.publish e).1 }, none)
  | shutdown : Effect g fresh .shutdown ({ g with bus := g.bus.dropHandle }, none)

/-- A request is accepted, opens a connection or is answered otherwise. -/
theorem effect_request (g : State) (fresh : Fresh) (upgradable : Bool) (r : Http.Request) :
    Effect g fresh (.request upgradable r) (g.step fresh (.request upgradable r)) := by
  rw [step]
  have hanswered := answered_respond fresh.now upgradable g.bus r
  generalize respond fresh.now upgradable g.bus r = p at hanswered ⊢
  cases hanswered with
  | accepted method path read asks => exact .accept read asks rfl
  | @upgraded segment n => exact .join n
  | refused reason status => exact .nothing (bne_iff_ne.2 status)

/-- A task that reads from its client ends, or goes on and has perhaps
answered. -/
theorem effect_readClient (g : State) (fresh : Fresh) (j : Nat) :
    Effect g fresh (.readClient j) (g.step fresh (.readClient j)) := by
  simp only [step]
  split
  · next c hc =>
    have hget := (open?_eq_some_iff.1 hc).1
    split
    · next m unread _ =>
      rcases apply_cases g fresh j { c with unread } (.ofClient m) with
        happly | ⟨-, happly⟩ | ⟨text, hreact, happly⟩
      · rw [happly]
        exact .finish hc rfl
      · rw [happly]
        exact .change hget rfl rfl
      · rw [happly]
        exact .reply hget rfl hreact rfl
    · exact .nothing rfl
  · exact .nothing rfl

/-- A task that receives ends, or goes on and has perhaps forwarded what it
received. -/
theorem effect_readBus (g : State) (fresh : Fresh) (j : Nat) :
    Effect g fresh (.readBus j) (g.step fresh (.readBus j)) := by
  simp only [step]
  split
  · next c hc =>
    have hopen := (open?_eq_some_iff.1 hc).2
    rcases apply_cases g fresh j { c with subscription := (c.subscription.receive g.bus).2 }
      (.ofBus (c.subscription.receive g.bus).1) with
      happly | ⟨hreact, happly⟩ | ⟨text, hreact, happly⟩
    · rw [happly]
      exact .finish hc rfl
    · rw [happly]
      exact .skip hc (if_pos hopen) hreact rfl
    · rw [happly]
      exact .forward hc (if_pos hopen) hreact rfl
  · exact .nothing rfl

/-- Every step has one of these effects. -/
theorem effect_step (g : State) (fresh : Fresh) (a : Action) :
    Effect g fresh a (g.step fresh a) := by
  cases a with
  | request upgradable r => exact effect_request g fresh upgradable r
  | arrive j m =>
    rw [step]
    split
    · next c hc => exact .change hc rfl rfl
    · exact .nothing rfl
  | sever j =>
    rw [step]
    split
    · next c hc => exact .change hc rfl rfl
    · exact .nothing rfl
  | readClient j => exact effect_readClient g fresh j
  | readBus j => exact effect_readBus g fresh j
  | publish e => exact .publish e
  | shutdown => exact .shutdown

/-- Every step keeps the books. -/
theorem serves_step (hs : g.bus.Serves g.subscriptions log) (fresh : Fresh) (a : Action) :
    ∃ more, (g.step fresh a).1.bus.Serves (g.step fresh a).1.subscriptions (log ++ more) := by
  have hsame : g.bus.Serves g.subscriptions (log ++ []) := by rwa [List.append_nil]
  have heffect := effect_step g fresh a
  generalize g.step fresh a = p at heffect ⊢
  cases heffect with
  | nothing => exact ⟨[], hsame⟩
  | @accept _ _ _ e => exact ⟨_, hs.publish e⟩
  | join n => exact ⟨[], serves_join hsame n⟩
  | change there held => exact ⟨[], serves_put hsame there held⟩
  | reply there held => exact ⟨[], serves_put hsame there held⟩
  | finish there channel => exact ⟨[], serves_finish hsame there channel⟩
  | skip there held => exact ⟨[], serves_received hsame there held⟩
  | forward there held => exact ⟨[], serves_received hsame there held⟩
  | publish e => exact ⟨_, hs.publish e⟩
  | shutdown => exact ⟨[], hsame.dropHandle⟩

/-- No step adds to the slots. -/
theorem slots_step (g : State) (fresh : Fresh) (a : Action) :
    (g.step fresh a).1.bus.channel.slots = g.bus.channel.slots := by
  have heffect := effect_step g fresh a
  generalize g.step fresh a = p at heffect ⊢
  cases heffect with
  | @accept _ _ _ e => exact Bus.slots_publish g.bus e
  | publish e => exact Bus.slots_publish g.bus e
  | _ => rfl

/-! ## Runs -/

/-- **The books are kept through every run.** -/
theorem serves_run (hs : g.bus.Serves g.subscriptions log) (steps : List (Fresh × Action)) :
    ∃ more, (g.run steps).1.bus.Serves (g.run steps).1.subscriptions (log ++ more) := by
  induction steps generalizing g log with
  | nil => exact ⟨[], by rwa [List.append_nil]⟩
  | cons p rest ih =>
    obtain ⟨fresh, a⟩ := p
    obtain ⟨first, hfirst⟩ := serves_step hs fresh a
    obtain ⟨more, hmore⟩ := ih hfirst
    rw [List.append_assoc] at hmore
    exact ⟨first ++ more, hmore⟩

theorem slots_run (g : State) (steps : List (Fresh × Action)) :
    (g.run steps).1.bus.channel.slots = g.bus.channel.slots := by
  induction steps generalizing g with
  | nil => rfl
  | cons p rest ih => exact (ih (g.step p.1 p.2).1).trans (slots_step g p.1 p.2)

theorem run_append (g : State) (as bs : List (Fresh × Action)) :
    (g.run (as ++ bs)).1 = ((g.run as).1.run bs).1 := by
  induction as generalizing g with
  | nil => rfl
  | cons p as ih => exact ih (g.step p.1 p.2).1

/-! ## From the start -/

/-- The run leads from a gateway that was just started with this capacity to
this state. -/
def Reached (capacity : Nat) (g : State) : Prop :=
  ∃ g₀ steps, start capacity = .ok g₀ ∧ (g₀.run steps).1 = g

theorem bus_of_start {capacity : Nat} {g₀ : State} (h : start capacity = .ok g₀) :
    Bus.create capacity = .ok g₀.bus ∧ g₀.connections = [] := by
  obtain ⟨b, hb, rfl⟩ := Json.map_eq_ok_iff.1 h
  exact ⟨hb, rfl⟩

/-- What is reached from a state that was reached was reached itself. -/
theorem Reached.run {capacity : Nat} (h : Reached capacity g) (steps : List (Fresh × Action)) :
    Reached capacity (g.run steps).1 := by
  obtain ⟨g₀, before, hstart, rfl⟩ := h
  exact ⟨g₀, before ++ steps, hstart, run_append g₀ before steps⟩

/-- In a state that was reached the books are right, and the slots are those
of the new bus. -/
theorem Reached.serves {capacity : Nat} (h : Reached capacity g) :
    (∃ log, g.bus.Serves g.subscriptions log) ∧
      g.bus.channel.slots = slotsFor (max capacity 1) := by
  obtain ⟨g₀, steps, hstart, rfl⟩ := h
  obtain ⟨hcreate, hnone⟩ := bus_of_start hstart
  have hserves : g₀.bus.Serves g₀.subscriptions [] := by
    rw [subscriptions, hnone]
    exact Bus.serves_create hcreate
  obtain ⟨more, hmore⟩ := serves_run hserves steps
  refine ⟨⟨_, hmore⟩, ?_⟩
  rw [slots_run, Bus.slots_create hcreate]

end State

end Gateway

end EventFeed
