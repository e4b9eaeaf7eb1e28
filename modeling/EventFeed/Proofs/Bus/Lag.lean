import EventFeed.Proofs.Bus.Books
import EventFeed.Proofs.Bus.Walk

/-!
# EventFeed.Proofs.Bus.Lag

Every subscription of every run goes its walk.  The receptions of a
subscription therefore account for all events that entered the channel since
it joined: each was received, or passed over because it belongs to another
namespace, or lies inside a block that was reported as lost; and what the
slots can hold is never lost.

One operation is one piece of the walk (`Follows.step`); a run strings the
pieces together.
-/

namespace EventFeed

namespace Bus

/-! ## The sights of a run -/

/-- What an operation with this answer is to the subscription of a number. -/
def Operation.sights (i : Nat) : Operation → Outcome → List Sight
  | .publish e, .count n => if 0 < n then [.entered e] else []
  | .receive j, .received got => if j = i then [.received got] else []
  | .drain j, .drained gots => if j = i then gots.map .received else []
  | _, _ => []

/-- What operations with these answers are to the subscription of a
number. -/
def sights (i : Nat) (ops : List Operation) (outcomes : List Outcome) : List Sight :=
  (ops.zip outcomes).flatMap fun p => p.1.sights i p.2

theorem Sight.history_append (xs ys : List Sight) :
    history (xs ++ ys) = history xs ++ history ys := by
  induction xs with
  | nil => rfl
  | cons x xs ih =>
    cases x with
    | entered e => simp [history, ih]
    | received got => simp [history, ih]

theorem Sight.history_map_received (gots : List (Reception Event)) :
    history (gots.map .received) = [] := by
  induction gots with
  | nil => rfl
  | cons got gots ih => exact ih

/-- Where nothing was done, nothing is seen. -/
theorem Operation.sights_of_isQuiet {op : Operation} {o : Outcome} (h : op.isQuiet o = true)
    (i : Nat) : op.sights i o = [] := by
  unfold Operation.sights
  split
  · cases h
  · cases h
  · cases h
  · rfl

/-- Every subscription sees the same events enter. -/
theorem history_operation_sights (i : Nat) (op : Operation) (o : Outcome) :
    Sight.history (op.sights i o) = op.entered o := by
  unfold Operation.sights
  split
  · rw [Operation.entered]
    split <;> rfl
  · split <;> rfl
  · split
    · exact Sight.history_map_received _
    · rfl
  · next hpublish hreceive hdrain =>
    unfold Operation.entered
    split
    · exact absurd rfl (hpublish _ _ rfl)
    · rfl

theorem history_sights (i : Nat) (ops : List Operation) (outcomes : List Outcome) :
    Sight.history (sights i ops outcomes) = entered ops outcomes := by
  rw [sights, entered]
  induction ops.zip outcomes with
  | nil => rfl
  | cons p ps ih =>
    rw [List.flatMap_cons, List.flatMap_cons, Sight.history_append, ih, history_operation_sights]

/-! ## Following one subscription -/

/-- A run that serves its subscriptions with this many slots, one of which
joined the namespace and has the events `ahead` of it, if it has not left. -/
structure Follows (r : Run) (i : Nat) (n : Namespace) (slots : Nat) (log ahead : List Event) :
    Prop where
  serves : r.bus.Serves r.live log
  slots_eq : r.bus.channel.slots = slots
  known : i < r.subscriptions.length
  suffix : ahead <:+ log
  current : ∀ s, r.subscription? i = some s → s.channel = n ∧ ahead = log.drop s.receiver.next

variable {r : Run} {i : Nat} {n : Namespace} {slots : Nat} {log ahead : List Event}

/-- A reception of a subscription that is served is a step of its walk. -/
theorem Serves.walk_receive {b : Bus} {subs : List Subscription} (h : b.Serves subs log)
    {s : Subscription} (hs : s ∈ subs) :
    Walk s.channel b.channel.slots (log.drop s.receiver.next) [.received (s.receive b).1]
      (log.drop (s.receive b).2.receiver.next) :=
  .of_takes (h.takes hs)

/-- So are many receptions, one after the other. -/
theorem Serves.walk_drainFor {b : Bus} {xs ys : List Subscription} {s : Subscription}
    (h : b.Serves (xs ++ s :: ys) log) (fuel : Nat) :
    Walk s.channel b.channel.slots (log.drop s.receiver.next)
      ((Subscription.drainFor b fuel s).1.map .received)
      (log.drop (Subscription.drainFor b fuel s).2.receiver.next) := by
  induction fuel generalizing s with
  | zero => exact .done _
  | succ fuel ih =>
    have hstep := h.walk_receive (s := s) (by simp)
    have hrest := ih h.receive
    rw [drainFor_succ]
    split
    · exact hstep
    · exact hstep.trans hrest

/-- Putting something in the place of a subscription leaves the others
alone. -/
theorem Run.subscription?_set_ne {j : Nat} (h : j ≠ i) (b : Bus) (v : Option Subscription) :
    Run.subscription? ⟨b, r.subscriptions.set j v⟩ i = r.subscription? i := by
  simp only [Run.subscription?]
  rw [List.getElem?_set_ne h]

theorem Run.subscription?_set_self {v : Option Subscription} (h : i < r.subscriptions.length)
    (b : Bus) : Run.subscription? ⟨b, r.subscriptions.set i v⟩ i = v := by
  simp only [Run.subscription?]
  rw [List.getElem?_set_self h]
  rfl

/-- Where something is put in a place, and the subscription followed is as far
as before or has gone a piece of its walk. -/
theorem Follows.set {b : Bus} {j : Nat} {v : Option Subscription} {ahead' : List Event}
    (h : Follows r i n slots log ahead) (hs : b.Serves ((r.subscriptions.set j v).filterMap id) log)
    (hslots : b.channel.slots = slots) (hsuffix : ahead' <:+ log)
    (hsame : j ≠ i → ahead' = ahead)
    (hmoved : j = i → ∀ s, v = some s → s.channel = n ∧ ahead' = log.drop s.receiver.next) :
    Follows ⟨b, r.subscriptions.set j v⟩ i n slots log ahead' where
  serves := hs
  slots_eq := hslots
  known := by
    rw [List.length_set]
    exact h.known
  suffix := hsuffix
  current := by
    intro s hcur
    by_cases hj : j = i
    · subst hj
      rw [Run.subscription?_set_self h.known] at hcur
      exact hmoved rfl s hcur
    · rw [Run.subscription?_set_ne hj] at hcur
      rw [hsame hj]
      exact h.current s hcur

/-- An operation without sights and without effect on the subscriptions. -/
theorem Follows.of_bus {b : Bus} (h : Follows r i n slots log ahead) (hs : b.Serves r.live log)
    (hslots : b.channel.slots = slots) : Follows { r with bus := b } i n slots log ahead :=
  ⟨hs, hslots, h.known, h.suffix, h.current⟩

/-! ## Single operations -/

/-- After an operation that leads to this state with this answer, the
subscription has gone a piece of its walk, and is still followed. -/
def Advances (i : Nat) (n : Namespace) (slots : Nat) (log ahead : List Event) (op : Operation)
    (p : Run × Outcome) : Prop :=
  ∃ ahead', Walk n slots ahead (op.sights i p.2) ahead' ∧
    Follows p.1 i n slots (log ++ op.entered p.2) ahead'

/-- Whoever joins comes behind all others. -/
theorem Follows.join (h : Follows r i n slots log ahead) (m : Namespace)
    (hserves : (r.bus.join m).1.Serves
      (Run.live ⟨(r.bus.join m).1, r.subscriptions ++ [some (r.bus.join m).2]⟩) log) :
    Follows ⟨(r.bus.join m).1, r.subscriptions ++ [some (r.bus.join m).2]⟩ i n slots log ahead where
  serves := hserves
  slots_eq := h.slots_eq
  known := by
    rw [List.length_append]
    exact Nat.lt_add_right _ h.known
  suffix := h.suffix
  current := by
    intro s hs
    have hold : r.subscription? i = some s := by
      simp only [Run.subscription?] at hs ⊢
      rwa [List.getElem?_append_left h.known] at hs
    exact h.current s hold

/-- What enters the channel comes behind all that lies ahead. -/
theorem Follows.publish (h : Follows r i n slots log ahead) (e : Event) :
    Follows { r with bus := (r.bus.publish e).1 } i n slots (log ++ r.bus.entering e)
      (ahead ++ r.bus.entering e) where
  serves := h.serves.publish e
  slots_eq := by
    rw [slots_publish]
    exact h.slots_eq
  known := h.known
  suffix := by
    obtain ⟨before, hlog⟩ := h.suffix
    exact ⟨before, by rw [← hlog, List.append_assoc]⟩
  current := by
    intro s hs
    obtain ⟨hchannel, hahead⟩ := h.current s hs
    have hle := h.serves.within s (Run.mem_live hs)
    rw [List.drop_append_of_le_length hle, hahead]
    exact ⟨hchannel, rfl⟩

/-- What one subscription receives takes it a piece of its walk, and is nothing
to the others. -/
theorem Follows.move {j : Nat} {s s' : Subscription} (h : Follows r i n slots log ahead)
    (gots : List (Reception Event)) (hj : r.subscription? j = some s)
    (hserves : r.bus.Serves ((r.subscriptions.set j (some s')).filterMap id) log)
    (hchannel : s'.channel = s.channel)
    (hwalk : Walk s.channel r.bus.channel.slots (log.drop s.receiver.next) (gots.map .received)
      (log.drop s'.receiver.next)) :
    ∃ ahead', Walk n slots ahead (if j = i then gots.map .received else []) ahead' ∧
      Follows { r with subscriptions := r.subscriptions.set j (some s') } i n slots log ahead' := by
  by_cases hij : j = i
  · subst hij
    obtain ⟨rfl, rfl⟩ := h.current s hj
    rw [h.slots_eq] at hwalk
    rw [if_pos rfl]
    refine ⟨_, hwalk, ?_⟩
    exact h.set hserves h.slots_eq (List.drop_suffix _ _) (absurd rfl)
      (fun _ t ht => by cases ht; exact ⟨hchannel, rfl⟩)
  · rw [if_neg hij]
    exact ⟨ahead, .done ahead,
      h.set hserves h.slots_eq h.suffix (fun _ => rfl) (fun he => absurd he hij)⟩

/-- One operation is a piece of the walk. -/
theorem Follows.step (h : Follows r i n slots log ahead) (op : Operation) :
    Advances i n slots log ahead op (r.step op) := by
  have hserves := Run.serves_step h.serves op
  have heffect := Run.effect_step r op
  generalize r.step op = p at hserves heffect ⊢
  cases heffect with
  | nothing quiet =>
    rw [Advances, Operation.sights_of_isQuiet quiet, Operation.entered_of_isQuiet quiet,
      List.append_nil]
    exact ⟨ahead, .done ahead, h⟩
  | join m =>
    simp only [Advances, Operation.entered, List.append_nil] at hserves ⊢
    exact ⟨ahead, .done ahead, h.join m hserves⟩
  | publish e =>
    have hsights : (Operation.publish e).sights i (.count (r.bus.listenerCount e.channel)) =
        (r.bus.entering e).map .entered := by
      rw [entering]
      show (if _ then _ else _) = _
      split <;> rfl
    rw [Advances, hsights]
    exact ⟨_, .of_entered ahead _, h.publish e⟩
  | @receive j s there =>
    have hwalk := h.serves.walk_receive (Run.mem_live there)
    simp only [Advances, Operation.entered, List.append_nil] at hserves ⊢
    exact h.move [(s.receive r.bus).1] there hserves rfl hwalk
  | @drain j s there =>
    obtain ⟨xs, ys, hlive, -⟩ := Run.exists_live_split there
    have hbefore := h.serves
    rw [hlive] at hbefore
    simp only [Advances, Operation.entered, List.append_nil] at hserves ⊢
    exact h.move _ there hserves (channel_drainFor _ _ _) (hbefore.walk_drainFor _)
  | leave there =>
    simp only [Advances, Operation.entered, List.append_nil] at hserves ⊢
    exact ⟨ahead, .done ahead, h.set hserves h.slots_eq h.suffix (fun _ => rfl)
      (fun _ t ht => by cases ht)⟩
  | addHandle =>
    simp only [Advances, Operation.entered, List.append_nil]
    exact ⟨ahead, .done ahead, h.of_bus h.serves.addHandle h.slots_eq⟩
  | dropHandle =>
    simp only [Advances, Operation.entered, List.append_nil]
    exact ⟨ahead, .done ahead, h.of_bus h.serves.dropHandle h.slots_eq⟩

/-! ## Runs -/

/-- A whole run is a walk. -/
theorem Follows.steps (h : Follows r i n slots log ahead) (ops : List Operation) :
    ∃ rest, Walk n slots ahead (sights i ops (r.steps ops).2) rest ∧
      Follows (r.steps ops).1 i n slots (log ++ entered ops (r.steps ops).2) rest := by
  induction ops generalizing r log ahead with
  | nil => exact ⟨ahead, .done ahead, by simpa [Run.steps, entered] using h⟩
  | cons op ops ih =>
    obtain ⟨next, hwalk, hnext⟩ := h.step op
    obtain ⟨rest, hmore, hrest⟩ := ih hnext
    rw [List.append_assoc] at hrest
    exact ⟨rest, hwalk.trans hmore, hrest⟩

/-! ## Since a subscription joined -/

/-- The state of a run from a new bus of this capacity, right after the
subscription `i` has joined the namespace. -/
def Run.Joined (r : Run) (capacity : Nat) (n : Namespace) (i : Nat) : Prop :=
  ∃ r₀ before, Run.start capacity = .ok r₀ ∧
    (r₀.steps before).1.step (.join n) = (r, .joined i)

/-- At first, nothing lies ahead. -/
theorem Run.Joined.follows {capacity : Nat} (h : r.Joined capacity n i) :
    ∃ log, Follows r i n (slotsFor (max capacity 1)) log [] := by
  obtain ⟨r₀, before, hstart, hjoin⟩ := h
  have hreached : Run.Reached capacity (r₀.steps before).1 := ⟨r₀, before, hstart, rfl⟩
  obtain ⟨log, hs⟩ := hreached.serves
  generalize (r₀.steps before).1 = r₁ at hreached hs hjoin
  have hserves := Run.serves_step hs (.join n)
  have heffect := Run.effect_step r₁ (.join n)
  rw [hjoin] at hserves heffect
  cases heffect with
  | nothing quiet => cases quiet
  | join =>
    simp only [Operation.entered, List.append_nil] at hserves
    refine ⟨log, hserves, hreached.slots_eq, ?_, List.nil_suffix, fun s hcur => ?_⟩
    · rw [List.length_append]
      exact Nat.lt_add_one _
    · have hnew : some (Bus.join r₁.bus n).2 = some s := by
        rw [← hcur]
        simp [Run.subscription?]
      cases hnew
      refine ⟨rfl, ?_⟩
      show [] = log.drop r₁.bus.channel.sent
      rw [hs.holds.sent_eq, List.drop_length]

/-- The slots are the least power of two that holds the capacity. -/
theorem slotsFor_spec {capacity : Nat} (h : 0 < capacity) :
    (∃ k, slotsFor capacity = 2 ^ k) ∧ capacity ≤ slotsFor capacity ∧
      slotsFor capacity < 2 * capacity := by
  refine ⟨?_, le_slotsFor capacity, ?_⟩
  · rw [slotsFor]
    split
    · exact ⟨0, rfl⟩
    · exact ⟨_, Nat.one_shiftLeft _⟩
  · by_cases h1 : 1 < capacity
    · exact slotsFor_lt capacity h1
    · have hone : capacity = 1 := by omega
      subst hone
      decide

/-- **Receptions account for all events** that entered the channel since a
subscription joined.  Its receptions are a walk through those events: each
lag skips the next events, as many as it says; each event received is the
next one of the namespace; and the events passed over belong to others.
There is a lag exactly when more events lie ahead than there are slots, and
then it is the excess.  Of what lies ahead the channel still keeps the
newest, so reading goes on with the oldest kept event.

In all, every event was received, or belongs to another namespace, or was
reported as lost; and none is lost that the slots can hold. -/
theorem receptions_account_for_events {capacity : Nat} (h : r.Joined capacity n i)
    (after : List Operation) :
    let slots := slotsFor (max capacity 1)
    let seen := sights i after (r.steps after).2
    ((∃ k, slots = 2 ^ k) ∧ max capacity 1 ≤ slots ∧ slots < 2 * max capacity 1) ∧
    ∃ rest marks, Walk n slots [] seen rest ∧
      Fared n slots (entered after (r.steps after).2) seen rest marks ∧
      Channel.newest slots rest <:+ (r.steps after).1.bus.channel.kept ∧
      ∀ past got future, seen = past ++ .received got :: future →
        ∃ ahead, Walk n slots [] past ahead ∧
          ((∃ lost, got = .lagged lost) ↔ slots < ahead.length) ∧
          ∀ lost, got = .lagged lost → 0 < lost ∧ lost = ahead.length - slots := by
  intro slots seen
  obtain ⟨log, hf⟩ := h.follows
  obtain ⟨rest, hwalk, hlast⟩ := hf.steps after
  obtain ⟨marks, hm⟩ := hwalk.fared
  rw [List.nil_append, history_sights] at hm
  have hpos : 0 < max capacity 1 := Nat.lt_of_lt_of_le Nat.one_pos (Nat.le_max_right _ _)
  refine ⟨slotsFor_spec hpos, rest, marks, hwalk, hm, ?_, fun past got future hseen => ?_⟩
  · rw [hlast.serves.holds.kept_eq, hlast.slots_eq]
    exact Channel.newest_suffix slots hlast.suffix
  · have hsplit : Walk n slots [] (past ++ .received got :: future) rest := hseen ▸ hwalk
    obtain ⟨ahead, hpast, hrest⟩ := hsplit.split
    cases hrest with
    | received step _ => exact ⟨ahead, hpast, step.lagged_iff, fun lost => step.lost_eq⟩

/-- Three events enter two slots: the first reception reports one of them as
lost, and the second one is an event. -/
theorem receptions_account_for_three_events :
    let e := Event.publishedAt default .standard "name" (.bool true)
    let r := (Run.step ⟨⟨Channel.create 2, []⟩, []⟩ (.join .standard)).1
    let after := [.publish e, .publish e, .publish e, .receive 0, .receive 0]
    let seen := sights 0 after (r.steps after).2
    (r.Joined 2 .standard 0 ∧ (entered after (r.steps after).2).length = 3 ∧
      Sight.lost seen = 1 ∧ (Sight.items seen).length = 1) ∧
    ∃ rest marks, Walk .standard (slotsFor (max 2 1)) [] seen rest ∧
      Fared .standard (slotsFor (max 2 1)) (entered after (r.steps after).2) seen rest marks := by
  intro e r after seen
  have h : r.Joined 2 .standard 0 := ⟨_, [], rfl, rfl⟩
  obtain ⟨-, rest, marks, hwalk, hm, -⟩ := receptions_account_for_events h after
  refine ⟨⟨h, ?_, ?_, ?_⟩, rest, marks, hwalk, hm⟩
  · decide +kernel
  · decide +kernel
  · decide +kernel

end Bus

end EventFeed
