import EventFeed.Proofs.Gateway.Requests
import EventFeed.Proofs.Gateway.Task

/-!
# EventFeed.Proofs.Gateway.Isolation

How far what a client does reaches.  Nothing that a client sends publishes an
event, and it leaves every other connection as it is
(`State.aside_step`).  As long as it does not end the task of its own
connection, a run with it and the run without it stay alike
(`State.Alike.run`): the bus and all other connections are the same, and the
connection itself gets the same from the bus.

A client that ends its connection gives up a subscription, though.  When it
was the last one of its namespace, events on that namespace no longer enter
the channel, and no longer push out those that others still wait for
(`close_changes_what_others_receive`).
-/

namespace EventFeed

namespace Gateway

open Turn (taken)

/-- Is it something that the client of the connection does, or its task
reading that? -/
def Action.isClientOf (i : Nat) : Action → Bool
  | .arrive j _ | .readClient j => j == i
  | _ => false

/-- Two connections of the number `j` that differ at most in what the client of
the connection `i` says and is told. -/
structure Connection.Like (i j : Nat) (c d : Connection) : Prop where
  subscription : d.subscription = c.subscription
  isOpen : d.isOpen = c.isOpen
  sendable : d.sendable = c.sendable
  other : j ≠ i → d = c

theorem Connection.Like.refl (i j : Nat) (c : Connection) : c.Like i j c :=
  ⟨rfl, rfl, rfl, fun _ => rfl⟩

namespace State

variable {g g' : State} {i j : Nat} {c d : Connection} {fresh : Fresh} {a : Action}

/-! ## The end of a task -/

/-- **A task that ends gives up its subscription**: it takes its last turn, and
its namespace, and no other, has one listener less. -/
theorem listenerCount_of_end {log : List Event} (hserves : g.bus.Serves g.subscriptions log)
    (hopen : g.open? i = some c) (hend : (g.step fresh a).1.open? i = none) :
    (∃ t, g.turn? fresh i a = some t ∧ t.isLast = true) ∧ ∀ n,
      (g.step fresh a).1.bus.listenerCount n + (if c.subscription.channel = n then 1 else 0) =
        g.bus.listenerCount n := by
  obtain ⟨hget, hrunning⟩ := open?_eq_some_iff.1 hopen
  cases hturn : g.turn? fresh i a with
  | none =>
    obtain ⟨d, hd, hrests⟩ := rests_step hget hturn
    rw [open?_eq_some_iff.2 ⟨hd, hrests.isOpen.trans hrunning⟩] at hend
    cases hend
  | some t =>
    obtain ⟨d, hchannel, -, hdopen, hstep⟩ := step_of_turn hopen hturn
    cases hlast : t.isLast with
    | false =>
      have hstill : (g.put i { d with sent := d.sent ++ t.text?.toList }).open? i =
          some { d with sent := d.sent ++ t.text?.toList } :=
        open?_put_self (List.getElem?_eq_some_iff.1 hget).1 (hdopen.trans hrunning)
      rw [hstep, hlast, if_neg (by decide), hstill] at hend
      cases hend
    | true =>
      refine ⟨⟨t, rfl, hlast⟩, fun n => ?_⟩
      have hleave : g.bus.leave d.subscription = g.bus.leave c.subscription := by
        rw [Bus.leave, Bus.leave, hchannel]
      rw [hstep, hlast, if_pos rfl]
      show (g.bus.leave d.subscription).listenerCount n + _ = _
      rw [hleave]
      exact hserves.listenerCount_leave (mem_subscriptions hopen) n

/-! ## One thing that a client does -/

/-- What one thing that happens leaves alone: nothing is published, whoever is
subscribed receives what he would have received, and all connections but one
are as they were. -/
structure Aside (i : Nat) (g g' : State) : Prop where
  published : g'.bus.channel.sent = g.bus.channel.sent
  receives : ∀ s : Subscription, s.receive g'.bus = s.receive g.bus
  others : ∀ j, j ≠ i → g'.connections[j]? = g.connections[j]?

theorem Aside.refl (i : Nat) (g : State) : Aside i g g := ⟨rfl, fun _ => rfl, fun _ _ => rfl⟩

theorem aside_put (i : Nat) (g : State) (c : Connection) : Aside i g (g.put i c) :=
  ⟨rfl, fun _ => rfl, fun _ hj => getElem?_put_ne hj.symm c⟩

theorem aside_finish (i : Nat) (g : State) (c : Connection) : Aside i g (g.finish i c) :=
  ⟨rfl, fun _ => rfl, fun _ hj => getElem?_finish_ne hj.symm c⟩

/-- **Whatever a client does**, it publishes nothing, and leaves all others
alone. -/
theorem aside_step (g : State) (fresh : Fresh) (ha : a.isClientOf i = true) :
    Aside i g (g.step fresh a).1 := by
  unfold Action.isClientOf at ha
  split at ha
  · next j m =>
    obtain rfl := beq_iff_eq.1 ha
    simp only [step]
    split
    · exact aside_put _ g _
    · exact .refl _ g
  · next j =>
    obtain rfl := beq_iff_eq.1 ha
    simp only [step]
    split
    · split
      · rw [apply_eq]
        split
        · exact aside_finish _ g _
        · exact aside_put _ g _
      · exact .refl _ g
    · exact .refl _ g
  · cases ha

/-! ## Two runs -/

/-- Two gateways that differ at most in what the client of one connection says
and is told. -/
structure Alike (i : Nat) (g g' : State) : Prop where
  bus : g'.bus = g.bus
  length : g'.connections.length = g.connections.length
  connections : ∀ (j : Nat) (c : Connection), g.connections[j]? = some c →
    ∃ d, g'.connections[j]? = some d ∧ c.Like i j d

theorem Alike.refl (i : Nat) (g : State) : Alike i g g :=
  ⟨rfl, rfl, fun j c hc => ⟨c, hc, .refl i j c⟩⟩

theorem Alike.get_none (h : Alike i g g') (hc : g.connections[j]? = none) :
    g'.connections[j]? = none := by
  rw [List.getElem?_eq_none_iff] at hc ⊢
  rw [h.length]
  exact hc

/-- All other connections are the same. -/
theorem Alike.getElem?_ne (h : Alike i g g') (hj : j ≠ i) :
    g'.connections[j]? = g.connections[j]? := by
  cases hc : g.connections[j]? with
  | none => exact h.get_none hc
  | some c =>
    obtain ⟨d, hd, hlike⟩ := h.connections j c hc
    rw [hd, hlike.other hj]

/-- Both have the connections that run, under the same numbers. -/
theorem Alike.open? (h : Alike i g g') (hc : g.open? j = some c) :
    ∃ d, g'.open? j = some d ∧ c.Like i j d := by
  obtain ⟨hget, hopen⟩ := open?_eq_some_iff.1 hc
  obtain ⟨d, hd, hlike⟩ := h.connections j c hget
  exact ⟨d, open?_eq_some_iff.2 ⟨hd, hlike.isOpen.trans hopen⟩, hlike⟩

theorem Alike.open?_none (h : Alike i g g') (hc : g.open? j = none) : g'.open? j = none := by
  cases hget : g.connections[j]? with
  | none => simp [State.open?, h.get_none hget]
  | some c =>
    obtain ⟨d, hd, hlike⟩ := h.connections j c hget
    have hclosed : c.isOpen = false := by simpa [State.open?, hget] using hc
    simp [State.open?, hd, hlike.isOpen, hclosed]

/-! ## Changes in both -/

theorem Alike.put (h : Alike i g g') (hlike : c.Like i j d) : Alike i (g.put j c) (g'.put j d) where
  bus := h.bus
  length := by rw [State.put, State.put, List.length_set, List.length_set, h.length]
  connections := by
    intro k e he
    by_cases hj : j = k
    · subst hj
      have hlt : j < g.connections.length := by
        simpa [State.put] using (List.getElem?_eq_some_iff.1 he).1
      rw [State.put, List.getElem?_set_self hlt] at he
      cases he
      exact ⟨d, by rw [State.put, List.getElem?_set_self (h.length ▸ hlt)], hlike⟩
    · rw [getElem?_put_ne hj] at he ⊢
      exact h.connections k e he

theorem Alike.finish (h : Alike i g g') (hlike : c.Like i j d) :
    Alike i (g.finish j c) (g'.finish j d) := by
  have hended : Connection.Like i j { c with isOpen := false } { d with isOpen := false } :=
    ⟨hlike.subscription, rfl, hlike.sendable, fun hj => by rw [hlike.other hj]⟩
  obtain ⟨-, hlength, hconnections⟩ := h.put hended
  refine ⟨?_, hlength, hconnections⟩
  show g'.bus.leave d.subscription = g.bus.leave c.subscription
  rw [h.bus, hlike.subscription]

/-- What happens to the bus alone. -/
theorem Alike.with_bus (h : Alike i g g') (b : Bus) :
    Alike i { g with bus := b } { g' with bus := b } := ⟨rfl, h.length, h.connections⟩

theorem Alike.opened (h : Alike i g g') (b : Bus) (c : Connection) :
    Alike i ⟨b, g.connections ++ [c]⟩ ⟨b, g'.connections ++ [c]⟩ where
  bus := rfl
  length := by simp [h.length]
  connections := by
    intro k e he
    by_cases hk : k < g.connections.length
    · rw [List.getElem?_append_left hk] at he
      rw [List.getElem?_append_left (h.length ▸ hk)]
      exact h.connections k e he
    · rw [List.getElem?_append_right (Nat.not_lt.1 hk)] at he
      rw [List.getElem?_append_right (h.length ▸ Nat.not_lt.1 hk), h.length]
      exact ⟨e, he, .refl i k e⟩

/-- A task deals with the same in both. -/
theorem Alike.apply (h : Alike i g g') (hlike : c.Like i j d) (fresh : Fresh) (s : Stimulus) :
    Alike i (g.apply fresh j c s) (g'.apply fresh j d s) := by
  rw [apply_eq, apply_eq, hlike.sendable]
  split
  · exact h.finish hlike
  · exact h.put ⟨hlike.subscription, hlike.isOpen, rfl, fun hj => by rw [hlike.other hj]⟩

/-! ## Steps -/

/-- **Both make the same step**, unless it is one of the client. -/
theorem Alike.step (h : Alike i g g') (fresh : Fresh) (ha : a.isClientOf i = false) :
    Alike i (g.step fresh a).1 (g'.step fresh a).1 := by
  cases a with
  | request upgradable r =>
    simp only [State.step, h.bus]
    split
    · exact h.opened _ _
    · exact h.with_bus _
  | arrive j m =>
    have hj : j ≠ i := by simpa [Action.isClientOf] using ha
    simp only [State.step, h.getElem?_ne hj]
    split
    · exact h.put (.refl i j _)
    · exact h
  | sever j =>
    simp only [State.step]
    cases hc : g.connections[j]? with
    | none =>
      rw [h.get_none hc]
      exact h
    | some c =>
      obtain ⟨d, hd, hlike⟩ := h.connections j c hc
      rw [hd]
      exact h.put ⟨hlike.subscription, hlike.isOpen, rfl, fun hj => by rw [hlike.other hj]⟩
  | readClient j =>
    have hj : j ≠ i := by simpa [Action.isClientOf] using ha
    simp only [State.step, State.open?, h.getElem?_ne hj]
    split
    · split
      · exact h.apply (.refl i j _) fresh _
      · exact h
    · exact h
  | readBus j =>
    simp only [State.step]
    cases hc : g.open? j with
    | none =>
      rw [h.open?_none hc]
      exact h
    | some c =>
      obtain ⟨d, hd, hlike⟩ := h.open? hc
      rw [hd]
      dsimp only
      rw [hlike.subscription, h.bus]
      have hmoved : Connection.Like i j
          { c with subscription := (c.subscription.receive g.bus).2 }
          { d with subscription := (c.subscription.receive g.bus).2 } :=
        ⟨rfl, hlike.isOpen, hlike.sendable, fun hj => by rw [hlike.other hj]⟩
      exact h.apply hmoved fresh _
  | publish e =>
    simp only [State.step, h.bus]
    exact h.with_bus _
  | shutdown =>
    simp only [State.step, h.bus]
    exact h.with_bus _

/-- The turns that are not of the client are the same in both. -/
theorem Alike.turn?_eq (h : Alike i g g') (fresh : Fresh) (ha : a.isClientOf i = false) :
    g'.turn? fresh i a = g.turn? fresh i a ∧
      ∀ t, g.turn? fresh i a = some t → t.isOfBus = true := by
  cases a with
  | readClient j =>
    have hj : j ≠ i := by simpa [Action.isClientOf] using ha
    simp [turn?, hj]
  | readBus j =>
    simp only [turn?]
    split
    · cases hc : g.open? i with
      | none => simp [h.open?_none hc]
      | some c =>
        obtain ⟨d, hd, hlike⟩ := h.open? hc
        simp [hd, hlike.subscription, hlike.sendable, h.bus, Turn.isOfBus]
    · simp
  | _ => simp [turn?]

/-- Only the first of the two gets something else in the place of the
connection. -/
theorem Alike.put_left (h : Alike i g g') (hc : g.connections[i]? = some c)
    (hsubscription : c.subscription = d.subscription) (hopen : c.isOpen = d.isOpen)
    (hsendable : c.sendable = d.sendable) : Alike i (g.put i d) g' where
  bus := h.bus
  length := by rw [State.put, List.length_set, h.length]
  connections := by
    intro k e he
    by_cases hk : i = k
    · subst hk
      rw [getElem?_put_self hc] at he
      cases he
      obtain ⟨f, hf, hlike⟩ := h.connections i c hc
      exact ⟨f, hf, hlike.subscription.trans hsubscription, hlike.isOpen.trans hopen,
        hlike.sendable.trans hsendable, fun hne => absurd rfl hne⟩
    · rw [getElem?_put_ne hk] at he
      exact h.connections k e he

/-- What the task reads from its client is not from the bus. -/
theorem isOfBus_of_client (ha : a.isClientOf i = true) {t : Turn}
    (ht : g.turn? fresh i a = some t) : t.isOfBus = false := by
  unfold Action.isClientOf at ha
  split at ha
  · cases ht
  · simp only [turn?, beq_iff_eq.1 ha, if_true, Option.bind_eq_some_iff,
      Option.map_eq_some_iff] at ht
    obtain ⟨c, -, m, -, rfl⟩ := ht
    rfl
  · cases ha

/-- **What the client does makes no difference**, unless it ends the task. -/
theorem Alike.client_step (h : Alike i g g') (ha : a.isClientOf i = true)
    (hlast : ∀ t, g.turn? fresh i a = some t → t.isLast = false) :
    Alike i (g.step fresh a).1 g' := by
  unfold Action.isClientOf at ha
  split at ha
  · next j m =>
    obtain rfl := beq_iff_eq.1 ha
    simp only [State.step]
    split
    · next c hc => exact h.put_left hc rfl rfl rfl
    · exact h
  · next j =>
    obtain rfl := beq_iff_eq.1 ha
    simp only [State.step]
    split
    · next c hc =>
      split
      · next m unread hunread =>
        have hturn : g.turn? fresh j (.readClient j) = some ⟨.ofClient m, fresh, c.sendable⟩ := by
          simp [turn?, hc, hunread]
        rw [apply_eq, if_neg (by simpa using hlast _ hturn)]
        exact h.put_left (open?_eq_some_iff.1 hc).1 rfl rfl rfl
      · exact h
    · exact h
  · cases ha

/-! ## Runs -/

/-- The run without what the client of the connection does. -/
def silenced (i : Nat) (steps : List (Fresh × Action)) : List (Fresh × Action) :=
  steps.filter fun p => !p.2.isClientOf i

/-- **A run with a client is like the run without it**, as long as the client
does not end the task of its connection: the bus is the same, all other
connections are the same, and the connection gets the same from the bus. -/
theorem Alike.run (h : Alike i g g') {steps : List (Fresh × Action)}
    (hclient : ∀ t ∈ g.turns i steps, t.isOfBus = false → t.isLast = false) :
    Alike i (g.run steps).1 (g'.run (silenced i steps)).1 ∧
      (g.turns i steps).filter Turn.isOfBus = g'.turns i (silenced i steps) := by
  induction steps generalizing g g' with
  | nil => exact ⟨h, rfl⟩
  | cons p rest ih =>
    obtain ⟨fresh, a⟩ := p
    have hrun : (g.run ((fresh, a) :: rest)).1 = ((g.step fresh a).1.run rest).1 := rfl
    rw [turns] at hclient ⊢
    have hrest := fun t ht => hclient t (List.mem_append_right _ ht)
    rw [hrun, List.filter_append]
    cases ha : a.isClientOf i with
    | true =>
      have hsilent : silenced i ((fresh, a) :: rest) = silenced i rest := by
        simp [silenced, ha]
      have hturn (t : Turn) (ht : g.turn? fresh i a = some t) : t.isOfBus = false :=
        isOfBus_of_client ha ht
      have hlast (t : Turn) (ht : g.turn? fresh i a = some t) : t.isLast = false :=
        hclient t (List.mem_append_left _ (Option.mem_toList.2 ht)) (hturn t ht)
      have hnone : (g.turn? fresh i a).toList.filter Turn.isOfBus = [] :=
        List.filter_eq_nil_iff.2 fun t ht => by simp [hturn t (Option.mem_toList.1 ht)]
      rw [hsilent, hnone, List.nil_append]
      exact ih (h.client_step ha hlast) hrest
    | false =>
      have hsilent : silenced i ((fresh, a) :: rest) = (fresh, a) :: silenced i rest := by
        simp [silenced, ha]
      obtain ⟨hsame, hbus⟩ := h.turn?_eq fresh ha
      obtain ⟨halike, hturns⟩ := ih (h.step fresh ha) hrest
      rw [hsilent, turns, hsame, hturns]
      refine ⟨halike, ?_⟩
      congr 1
      exact List.filter_eq_self.2 fun t ht => hbus t (Option.mem_toList.1 ht)

end State

/-! ## Connections among others -/

/-- Another namespace than the standard one. -/
def otherNamespace : Namespace := ⟨"other", by decide⟩

/-- A gateway of one slot with two connections: one on the standard namespace
and one on the other. -/
def crowdedGateway : State :=
  ((State.mk ⟨Channel.create 1, []⟩ []).run [
    (default, .request true (requestToJoin .standard)),
    (default, .request true (requestToJoin otherNamespace))]).1

theorem reached_crowdedGateway : State.Reached 1 crowdedGateway := ⟨_, _, rfl, rfl⟩

end Gateway

end EventFeed
