import EventFeed.Proofs.Bus.Lag

/-!
# EventFeed.Proofs.Bus.Delivery

A subscription that keeps up receives what is published on its namespace:
all of it, nothing else, in order and once.  Keeping up means that there are
never more events outstanding, of whatever namespaces, than the channel has
slots.

A single event that is published is received in the same way, once and in its
place, by every subscription of its namespace that does not fall behind
(`Run.Reached.received_published`).

Two things carry this.  While the subscription is there, its namespace has a
listener, so every event published on it enters the channel; and a walk
without lags delivers every event of the namespace that it reaches.
-/

namespace EventFeed

namespace Bus

/-! ## Walks without lags -/

variable {r : Run} {i : Nat} {n : Namespace} {slots : Nat} {log ahead rest : List Event}

/-- Without lags, what is delivered and what is still to come are the
history, as far as it belongs to the namespace. -/
theorem Fared.items_append {history : List Event} {seen : List Sight}
    {marks : List (Event × Fate)} (h : Fared n slots history seen rest marks)
    (hlost : Sight.lost seen = 0) :
    Sight.items seen ++ rest.filter (·.channel = n) = history.filter (·.channel = n) := by
  rw [h.covers, List.filter_append, ← h.received, having, List.filter_map]
  congr 2
  apply List.filter_congr
  intro p hp
  obtain ⟨e, fate⟩ := p
  cases fate with
  | delivered => simpa using h.mine e hp
  | passed => simpa using h.others e hp
  | lost =>
    have hnone : having .lost marks = [] := by
      rw [← List.length_eq_zero_iff, h.reported, hlost]
    have hmem : e ∈ having .lost marks :=
      List.mem_map.2 ⟨_, List.mem_filter.2 ⟨hp, by simp⟩, rfl⟩
    rw [hnone] at hmem
    cases hmem

/-- Who has no more ahead than the slots hold receives without a lag. -/
theorem Walk.lost_map_received {gots : List (Reception Event)}
    (h : Walk n slots ahead (gots.map .received) rest) (hle : ahead.length ≤ slots) :
    Sight.lost (gots.map .received) = 0 := by
  induction gots generalizing ahead with
  | nil => rfl
  | cons got gots ih =>
    cases h with
    | received step h =>
      cases step with
      | lagged behind => exact absurd hle (Nat.not_le.2 behind)
      | item current =>
        refine ih h ?_
        simp only [List.length_append, List.length_cons] at current
        omega
      | nothing =>
        have hrest := ih h (Nat.zero_le slots)
        rw [List.map_cons, Sight.lost_received, hrest]
        split <;> rfl

/-- The same for the sights of one operation. -/
theorem Walk.lost_sights {op : Operation} {o : Outcome}
    (h : Walk n slots ahead (op.sights i o) rest) (hle : ahead.length ≤ slots) :
    Sight.lost (op.sights i o) = 0 := by
  unfold Operation.sights at h ⊢
  split
  · split <;> rfl
  · split
    · next got hj =>
      simp only [hj, if_true] at h
      have hone : Walk n slots ahead ([got].map .received) rest := h
      exact hone.lost_map_received hle
    · rfl
  · split
    · next gots hj =>
      simp only [hj, if_true] at h
      exact Walk.lost_map_received h hle
    · rfl
  · rfl

theorem Sight.lost_append (xs ys : List Sight) : lost (xs ++ ys) = lost xs + lost ys := by
  induction xs with
  | nil => simp [lost]
  | cons x xs ih =>
    cases x with
    | entered e => exact ih
    | received got =>
      rw [List.cons_append, Sight.lost_received, ih, Sight.lost_received got xs, Nat.add_assoc]

/-! ## Draining -/

/-- Draining takes everything, if there is fuel for each event ahead and one
reception more. -/
theorem Serves.drainFor_done {b : Bus} {xs ys : List Subscription} {s : Subscription}
    (h : b.Serves (xs ++ s :: ys) log) {fuel : Nat}
    (hle : (log.drop s.receiver.next).length ≤ b.channel.slots)
    (hfuel : (log.drop s.receiver.next).length < fuel) :
    log.drop (Subscription.drainFor b fuel s).2.receiver.next = [] := by
  induction fuel generalizing s with
  | zero => cases hfuel
  | succ fuel ih =>
    have hstep := h.takes (s := s) (by simp)
    have hnext := h.receive
    rw [drainFor_succ]
    generalize hgot : (s.receive b).1 = got at hstep
    generalize hafter : (s.receive b).2 = s' at hstep hnext
    generalize hahead : log.drop s.receiver.next = ahead at hstep hle hfuel
    generalize hrest : log.drop s'.receiver.next = rest at hstep
    cases hstep with
    | lagged behind => exact absurd hle (Nat.not_le.2 behind)
    | item current =>
      simp only [List.length_append, List.length_cons] at current hfuel
      refine ih hnext ?_ ?_
      · rw [hrest]
        omega
      · rw [hrest]
        omega
    | nothing =>
      have hlast :
          Subscription.isLast (if b.channel.isClosed then .closed else .pending) = true := by
        cases b.channel.isClosed <;> rfl
      rw [if_pos hlast]
      exact hrest

/-- Draining leaves nothing ahead. -/
theorem Serves.drain_done {b : Bus} {xs ys : List Subscription} {s : Subscription}
    (h : b.Serves (xs ++ s :: ys) log) : log.drop (s.drain b).2.receiver.next = [] := by
  have hkept : b.channel.kept.length = min b.channel.slots log.length := by
    rw [h.holds.kept_eq, Channel.length_newest]
  have hahead : (log.drop s.receiver.next).length ≤ log.length := by
    rw [List.length_drop]
    omega
  rw [Subscription.drain]
  by_cases hle : (log.drop s.receiver.next).length ≤ b.channel.slots
  · exact h.drainFor_done hle (by omega)
  · -- one reception tells the lag, and what is then ahead fits the slots
    have hstep := h.takes (s := s) (by simp)
    have hnext := h.receive
    obtain ⟨hgot, hskip⟩ := hstep.of_behind (Nat.lt_of_not_le hle)
    have hlen : (log.drop (s.receive b).2.receiver.next).length = b.channel.slots := by
      rw [hskip, List.length_drop]
      omega
    rw [drainFor_succ, hgot, if_neg (by simp [Subscription.isLast])]
    exact hnext.drainFor_done (Nat.le_of_eq hlen) (by omega)

/-- An event that came last is not lost to a lag, so who receives until
nothing is ahead has received it. -/
theorem Walk.item_mem {slots : Nat} {n : Namespace} {ahead rest : List Event} {e : Event}
    {gots : List (Reception Event)} (h : Walk n slots (ahead ++ [e]) (gots.map .received) rest)
    (hrest : rest = []) (hslots : 0 < slots) (he : e.channel = n) : .item e ∈ gots := by
  induction gots generalizing ahead with
  | nil =>
    generalize hall : ahead ++ [e] = all at h
    cases h with
    | done =>
      rw [hrest] at hall
      exact absurd hall (by simp)
  | cons got gots ih =>
    generalize hall : ahead ++ [e] = all at h
    cases h with
    | @received _ later _ _ _ _ step h =>
      cases step with
      | lagged behind =>
        subst hall
        rw [List.length_append, List.length_singleton] at h behind
        rw [List.drop_append_of_le_length (by omega)] at h
        exact List.mem_cons_of_mem _ (ih h)
      | @item passed _ x =>
        rcases List.eq_nil_or_concat later with rfl | ⟨init, y, rfl⟩
        · obtain ⟨-, hlast⟩ := List.append_inj' hall rfl
          cases hlast
          exact List.mem_cons_self
        · have hsplit : ahead ++ [e] = (passed ++ x :: init) ++ [y] := by
            rw [hall]
            simp
          obtain ⟨-, hlast⟩ := List.append_inj' hsplit rfl
          cases hlast
          rw [List.concat_eq_append] at h
          exact List.mem_cons_of_mem _ (ih h)
      | nothing current others =>
        subst hall
        have hmine := others e (by simp)
        simp [he] at hmine

/-- **An event reaches whoever drains** on its namespace next. -/
theorem Serves.item_mem_drain {b : Bus} {xs ys : List Subscription} {s : Subscription}
    (h : b.Serves (xs ++ s :: ys) log) (hslots : 0 < b.channel.slots) {e : Event}
    (he : e.channel = s.channel) : .item e ∈ (s.drain (b.publish e).1).1 := by
  have hpos : 0 < b.listenerCount e.channel := he ▸ h.listenerCount_pos (by simp)
  have hserves := h.publish e
  rw [entering, if_pos hpos] at hserves
  have hwithin := h.within s (by simp)
  have hwalk := hserves.walk_drainFor ((b.publish e).1.channel.kept.length + 2)
  rw [List.drop_append_of_le_length hwithin, slots_publish] at hwalk
  exact hwalk.item_mem hserves.drain_done hslots he

/-! ## What is published while a subscription is there -/

/-- The events that an operation with this answer published on the
namespace, whoever may listen. -/
def Operation.publishedOn (n : Namespace) : Operation → Outcome → List Event
  | .publish e, .count _ => if e.channel = n then [e] else []
  | _, _ => []

theorem Operation.publishedOn_of_isQuiet {op : Operation} {o : Outcome} (h : op.isQuiet o = true)
    (n : Namespace) : op.publishedOn n o = [] := by
  unfold Operation.publishedOn
  split
  · cases h
  · rfl

/-- The events that operations with these answers published on the
namespace. -/
def publishedOn (n : Namespace) (ops : List Operation) (outcomes : List Outcome) : List Event :=
  (ops.zip outcomes).flatMap fun p => p.1.publishedOn n p.2

/-- How many events entered the channel and lie ahead of the subscription;
none if it is not there. -/
def Run.outstanding (r : Run) (i : Nat) : Nat :=
  match r.subscription? i with
  | some s => r.bus.channel.sent - s.receiver.next
  | none => 0

/-- What lies ahead of a subscription that is followed is outstanding. -/
theorem Follows.outstanding_eq (h : Follows r i n slots log ahead)
    (hlive : (r.subscription? i).isSome) : r.outstanding i = ahead.length := by
  obtain ⟨s, hs⟩ := Option.isSome_iff_exists.1 hlive
  rw [Run.outstanding, hs, (h.current s hs).2, List.length_drop, h.serves.holds.sent_eq]

/-- A subscription stays until it leaves. -/
theorem Run.isSome_step {op : Operation} (hlive : (r.subscription? i).isSome)
    (hstay : op ≠ .leave i) : ((r.step op).1.subscription? i).isSome := by
  obtain ⟨t, ht⟩ := Option.isSome_iff_exists.1 hlive
  have hlt := (List.getElem?_eq_some_iff.1 (Run.subscription?_eq_some_iff.1 ht)).1
  have hset (j : Nat) (s : Subscription) :
      (Run.subscription? ⟨r.bus, r.subscriptions.set j (some s)⟩ i).isSome := by
    by_cases hj : j = i
    · subst hj
      rw [Run.subscription?_set_self hlt]
      rfl
    · rwa [Run.subscription?_set_ne hj]
  have heffect := Run.effect_step r op
  generalize r.step op = p at heffect ⊢
  cases heffect with
  | nothing => exact hlive
  | join m =>
    simp only [Run.subscription?]
    rwa [List.getElem?_append_left hlt]
  | publish e => exact hlive
  | receive => exact hset _ _
  | drain => exact hset _ _
  | @leave j s there =>
    have hne : j ≠ i := fun he => hstay (by rw [he])
    rwa [Run.subscription?_set_ne hne]
  | addHandle => exact hlive
  | dropHandle => exact hlive

theorem Run.isSome_steps {ops : List Operation} (hlive : (r.subscription? i).isSome)
    (hstay : .leave i ∉ ops) : ((r.steps ops).1.subscription? i).isSome := by
  induction ops generalizing r with
  | nil => exact hlive
  | cons op ops ih =>
    rw [List.mem_cons, not_or] at hstay
    exact ih (Run.isSome_step hlive (Ne.symm hstay.1)) hstay.2

/-- While the subscription is there, what is published on its namespace
enters the channel: it is itself a listener. -/
theorem Follows.published_step (h : Follows r i n slots log ahead)
    (hlive : (r.subscription? i).isSome) (op : Operation) :
    (op.entered (r.step op).2).filter (·.channel = n) = op.publishedOn n (r.step op).2 := by
  have heffect := Run.effect_step r op
  generalize r.step op = p at heffect ⊢
  cases heffect with
  | nothing quiet =>
    rw [Operation.entered_of_isQuiet quiet, Operation.publishedOn_of_isQuiet quiet, List.filter_nil]
  | publish e =>
    -- the subscription is itself a listener, so what is meant for it gets past the gate
    obtain ⟨s, hs⟩ := Option.isSome_iff_exists.1 hlive
    have hpos := h.serves.listenerCount_pos (Run.mem_live hs)
    rw [(h.current s hs).1] at hpos
    simp only [Operation.entered, Operation.publishedOn]
    by_cases hc : e.channel = n
    · rw [hc, if_pos hpos, if_pos rfl]
      simp [hc]
    · rw [if_neg hc]
      split
      · simp [hc]
      · rfl
  | _ => rfl

theorem Follows.published (h : Follows r i n slots log ahead)
    (hlive : (r.subscription? i).isSome) {ops : List Operation} (hstay : .leave i ∉ ops) :
    (entered ops (r.steps ops).2).filter (·.channel = n) = publishedOn n ops (r.steps ops).2 := by
  induction ops generalizing r log ahead with
  | nil => rfl
  | cons op ops ih =>
    rw [List.mem_cons, not_or] at hstay
    obtain ⟨next, -, hnext⟩ := h.step op
    have hrest := ih hnext (Run.isSome_step hlive (Ne.symm hstay.1)) hstay.2
    simp only [Run.steps, entered, publishedOn, List.zip_cons_cons, List.flatMap_cons,
      List.filter_append] at hrest ⊢
    rw [h.published_step hlive op, hrest]

/-- If the slots hold what is outstanding before each operation, no
reception reports a lag. -/
theorem Follows.lost_eq_zero (h : Follows r i n slots log ahead)
    (hlive : (r.subscription? i).isSome) {ops : List Operation} (hstay : .leave i ∉ ops)
    (hcurrent : ∀ done, done <+: ops → done ≠ ops → (r.steps done).1.outstanding i ≤ slots) :
    Sight.lost (sights i ops (r.steps ops).2) = 0 := by
  induction ops generalizing r log ahead with
  | nil => rfl
  | cons op ops ih =>
    rw [List.mem_cons, not_or] at hstay
    obtain ⟨next, hwalk, hnext⟩ := h.step op
    have hle : ahead.length ≤ slots := by
      have h0 := hcurrent [] List.nil_prefix (by simp)
      rwa [Run.steps, h.outstanding_eq hlive] at h0
    have hrest := ih hnext (Run.isSome_step hlive (Ne.symm hstay.1)) hstay.2
      fun done hdone hne => hcurrent (op :: done) (List.cons_prefix_cons.2 ⟨rfl, hdone⟩)
        (by simpa using hne)
    simp only [Run.steps, sights, List.zip_cons_cons, List.flatMap_cons] at hrest ⊢
    rw [Sight.lost_append, hwalk.lost_sights hle, hrest]

theorem Run.step_drain (r : Run) (i : Nat) :
    (r.step (.drain i)).1 = match r.subscription? i with
      | some s => { r with subscriptions := r.subscriptions.set i (some (s.drain r.bus).2) }
      | none => r := by
  cases hi : r.subscription? i <;> simp [Run.step, Operation.needsHandle, hi]

/-- Draining leaves nothing outstanding. -/
theorem Follows.outstanding_drain (h : Follows r i n slots log ahead) :
    (r.step (.drain i)).1.outstanding i = 0 := by
  cases hi : r.subscription? i with
  | none => rw [Run.step_drain, hi, Run.outstanding, hi]
  | some s =>
    obtain ⟨xs, ys, hsplit, -⟩ := Run.exists_live_split hi
    have hserves := h.serves
    rw [hsplit] at hserves
    have hdone := hserves.drain_done
    rw [Run.step_drain, hi, Run.outstanding, Run.subscription?_set_self h.known,
      h.serves.holds.sent_eq]
    show log.length - (s.drain r.bus).2.receiver.next = 0
    rw [← List.length_drop, hdone]
    rfl

/-! ## Delivery -/

/-- What the subscription of a number received by operations with these
answers. -/
def received (i : Nat) (ops : List Operation) (outcomes : List Outcome) : List Event :=
  Sight.items (sights i ops outcomes)

/-- A subscription keeps up through a run since it joined: it does not
leave, and never are there more events outstanding than slots. -/
structure Run.KeepsUp (r : Run) (capacity : Nat) (n : Namespace) (i : Nat)
    (after : List Operation) : Prop where
  joined : r.Joined capacity n i
  stays : .leave i ∉ after
  current : ∀ done, done <+: after →
    (r.steps done).1.outstanding i ≤ slotsFor (max capacity 1)

theorem Run.Joined.isSome {capacity : Nat} (h : r.Joined capacity n i) :
    (r.subscription? i).isSome := by
  obtain ⟨r₀, before, -, hjoin⟩ := h
  have heffect := Run.effect_step (r₀.steps before).1 (.join n)
  rw [hjoin] at heffect
  cases heffect with
  | nothing quiet => cases quiet
  | join => simp [Run.subscription?]

/-- If the slots hold what is outstanding all the time, then, when the
subscription is drained at last, it has received what lay ahead of it on its
namespace, and behind that what was published there, and nothing was lost. -/
theorem Follows.received_eq (h : Follows r i n slots log ahead)
    (hlive : (r.subscription? i).isSome) {after : List Operation} (hstays : .leave i ∉ after)
    (hcurrent : ∀ done, done <+: after → (r.steps done).1.outstanding i ≤ slots) :
    let ops := after ++ [.drain i]
    Sight.lost (sights i ops (r.steps ops).2) = 0 ∧
      received i ops (r.steps ops).2 =
        ahead.filter (·.channel = n) ++ publishedOn n ops (r.steps ops).2 := by
  intro ops
  have hstay : .leave i ∉ ops := by
    simpa [ops] using hstays
  have hlost : Sight.lost (sights i ops (r.steps ops).2) = 0 := by
    refine h.lost_eq_zero hlive hstay fun done hdone hne => ?_
    exact hcurrent done ((List.prefix_concat_iff.1 hdone).resolve_left hne)
  refine ⟨hlost, ?_⟩
  obtain ⟨rest, hwalk, hlast⟩ := h.steps ops
  obtain ⟨marks, hm⟩ := hwalk.fared
  rw [history_sights] at hm
  have hall := hm.items_append hlost
  rw [List.filter_append, h.published hlive hstay] at hall
  have hdone : rest = [] := by
    obtain ⟨_, -, hbefore⟩ := h.steps after
    have hnone := hbefore.outstanding_drain
    have hstate : (r.steps ops).1 = ((r.steps after).1.step (.drain i)).1 := by
      rw [Run.steps_append]
      rfl
    rw [← hstate, hlast.outstanding_eq (Run.isSome_steps hlive hstay)] at hnone
    exact List.length_eq_zero_iff.1 hnone
  rw [hdone, List.filter_nil, List.append_nil] at hall
  exact hall

/-- Nothing lies ahead of who has just joined, so all that was published since
is received. -/
theorem Run.KeepsUp.received_eq {capacity : Nat} {after : List Operation}
    (h : r.KeepsUp capacity n i after) :
    let ops := after ++ [.drain i]
    Sight.lost (sights i ops (r.steps ops).2) = 0 ∧
      received i ops (r.steps ops).2 = publishedOn n ops (r.steps ops).2 := by
  obtain ⟨log, hf⟩ := h.joined.follows
  exact hf.received_eq h.joined.isSome h.stays h.current

/-- **A published event is received exactly once** by a subscription of its
namespace, behind what the channel has kept for it and before what is published
there later, if the slots hold what is outstanding from then on. -/
theorem Run.Reached.received_published {capacity : Nat} (h : r.Reached capacity) {s : Subscription}
    (hs : r.subscription? i = some s) {e : Event} (he : e.channel = s.channel)
    {after : List Operation} (hstays : .leave i ∉ after)
    (hcurrent : ∀ done, done <+: after →
      (Run.steps { r with bus := (r.bus.publish e).1 } done).1.outstanding i ≤
        r.bus.channel.slots) :
    let ops := after ++ [.drain i]
    let outcomes := (Run.steps { r with bus := (r.bus.publish e).1 } ops).2
    received i ops outcomes = (r.bus.channel.unseen s.receiver).filter s.wants ++
      e :: publishedOn s.channel ops outcomes := by
  intro ops outcomes
  obtain ⟨log, hserves⟩ := h.serves
  have hknown := (List.getElem?_eq_some_iff.1 (subscription?_eq_some_iff.1 hs)).1
  have hfollows : Follows r i s.channel r.bus.channel.slots log (log.drop s.receiver.next) :=
    ⟨hserves, rfl, hknown, List.drop_suffix _ _, fun t ht => by cases hs.symm.trans ht; simp⟩
  have hlistened := hserves.listenerCount_pos (mem_live hs)
  have hpublished := hfollows.publish e
  rw [entering, he, if_pos hlistened] at hpublished
  have hlive : (subscription? { r with bus := (r.bus.publish e).1 } i).isSome :=
    Option.isSome_iff_exists.2 ⟨s, hs⟩
  obtain ⟨-, hreceived⟩ := hpublished.received_eq hlive hstays hcurrent
  -- as the event fits the slots beside what lies ahead, nothing of that is gone
  have hunseen : r.bus.channel.unseen s.receiver = log.drop s.receiver.next := by
    have hfits := hcurrent [] List.nil_prefix
    rw [Run.steps, hpublished.outstanding_eq hlive, List.length_append, List.length_drop,
      List.length_singleton] at hfits
    refine hserves.holds.unseen_eq ?_
    rw [hserves.holds.oldest_eq]
    omega
  have hwants : s.wants = fun x => decide (x.channel = s.channel) :=
    funext fun x => by rw [Subscription.wants, beq_eq_decide]
  rw [hreceived, hunseen, hwants, List.filter_append, List.filter_cons_of_pos (by simpa using he),
    List.filter_nil, List.append_assoc]
  rfl

/-- **A subscription that keeps up receives what is published** on its
namespace since it joined.  When it is drained, it has received all of that
and nothing else, in the order of publication and each event once, and no
lag was reported.

Nothing else matters.  In any other run, on any other bus, a subscription
that keeps up receives the same, if the same is published on its
namespace. -/
theorem received_eq_published {capacity : Nat} {after : List Operation}
    (h : r.KeepsUp capacity n i after) :
    let ops := after ++ [.drain i]
    received i ops (r.steps ops).2 = publishedOn n ops (r.steps ops).2 ∧
    Sight.lost (sights i ops (r.steps ops).2) = 0 ∧
    ∀ {r' : Run} {capacity' j : Nat} {after' : List Operation},
      r'.KeepsUp capacity' n j after' →
      let ops' := after' ++ [.drain j]
      publishedOn n ops' (r'.steps ops').2 = publishedOn n ops (r.steps ops).2 →
      received j ops' (r'.steps ops').2 = received i ops (r.steps ops).2 := by
  intro ops
  obtain ⟨hlost, hreceived⟩ := h.received_eq
  refine ⟨hreceived, hlost, ?_⟩
  intro r' capacity' j after' h' ops' hsame
  obtain ⟨-, hreceived'⟩ := h'.received_eq
  rw [hreceived', hreceived]
  exact hsame

/-- Between two events on its own namespace, a subscription on a bus of two
slots is passed by one on another namespace that is joined meanwhile; it
receives the two. -/
theorem received_two_of_three :
    let other : Namespace := ⟨"other", by decide⟩
    let mine (b : Bool) := Event.publishedAt default .standard "name" (.bool b)
    let r := (Run.step ⟨⟨Channel.create 2, []⟩, []⟩ (.join .standard)).1
    let after := [.publish (mine true), .join other, .receive 0,
      .publish (.publishedAt default other "name" .null), .publish (mine false)]
    let ops := after ++ [.drain 0]
    r.KeepsUp 2 .standard 0 after ∧
      received 0 ops (r.steps ops).2 = publishedOn .standard ops (r.steps ops).2 ∧
      (publishedOn .standard ops (r.steps ops).2).length = 2 ∧
      (entered ops (r.steps ops).2).length = 3 := by
  intro other mine r after ops
  have h : r.KeepsUp 2 .standard 0 after := by
    refine ⟨⟨_, [], rfl, rfl⟩, by simp [after], fun done hdone => ?_⟩
    have hall : ∀ k < 6, (r.steps (after.take k)).1.outstanding 0 ≤ slotsFor (max 2 1) := by
      decide +kernel
    have hlen : done.length ≤ 5 := hdone.length_le
    rw [List.prefix_iff_eq_take.1 hdone]
    exact hall done.length (Nat.lt_succ_of_le hlen)
  obtain ⟨heq, -, -⟩ := received_eq_published h
  refine ⟨h, heq, ?_, ?_⟩
  · decide +kernel
  · decide +kernel

end Bus

end EventFeed
