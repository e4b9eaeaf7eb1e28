import EventFeed.Bus.Run
import EventFeed.Proofs.Bus.Service

/-!
# EventFeed.Proofs.Bus.Books

Runs of a bus keep its books right: whatever happens in whichever order,
the bus serves exactly the subscriptions that have not left.  The count of
a namespace is then the number of its subscriptions, and the receivers are
as many as there are subscriptions on all namespaces together.

Hence publishing tells the truth about who listens, the channel never
refuses what is published, and what nobody listens for leaves no trace.
-/

namespace EventFeed

namespace Bus

/-- The events that enter the channel by an operation that was answered
like this. -/
def Operation.entered : Operation → Outcome → List Event
  | .publish e, .count n => if 0 < n then [e] else []
  | _, _ => []

/-- Does the answer tell of nothing that the operation has done to a
subscription or the channel? -/
def Operation.isQuiet : Operation → Outcome → Bool
  | .join _, .joined _ | .publish _, .count _ | .receive _, .received _ | .drain _, .drained _
  | .leave _, .left true => false
  | _, _ => true

theorem Operation.entered_of_isQuiet {op : Operation} {o : Outcome} (h : op.isQuiet o = true) :
    op.entered o = [] := by
  unfold Operation.entered
  split
  · cases h
  · rfl

/-- The events that enter the channel by operations with these answers. -/
def entered (ops : List Operation) (outcomes : List Outcome) : List Event :=
  (ops.zip outcomes).flatMap fun p => p.1.entered p.2

namespace Run

variable {r : Run} {log : List Event} {i : Nat} {s : Subscription}

/-! ## Subscriptions by number -/

theorem subscription?_eq_some_iff :
    r.subscription? i = some s ↔ r.subscriptions[i]? = some (some s) := by
  rw [subscription?, Option.join_eq_some_iff]

/-- A subscription stands among the live ones, and what is put in its place
stands there too. -/
theorem exists_live_split (h : r.subscription? i = some s) :
    ∃ xs ys, r.live = xs ++ s :: ys ∧
      ∀ v : Option Subscription, (r.subscriptions.set i v).filterMap id = xs ++ (v.toList ++ ys) :=
  filterMap_set_split (subscription?_eq_some_iff.1 h) rfl

theorem mem_live (h : r.subscription? i = some s) : s ∈ r.live := by
  obtain ⟨xs, ys, hlive, -⟩ := exists_live_split h
  rw [hlive]
  simp

/-! ## Steps -/

/-- What an operation does to a run, and its answer.  Where nothing is done,
the answer does not say otherwise: the operation needs a handle and there is
none, or a subscription that is not there, or only asks. -/
inductive Effect (r : Run) : Operation → Run × Outcome → Prop where
  | nothing {op : Operation} {o : Outcome} (quiet : op.isQuiet o = true) : Effect r op (r, o)
  | join (n : Namespace) :
    Effect r (.join n) (⟨(r.bus.join n).1, r.subscriptions ++ [some (r.bus.join n).2]⟩,
      .joined r.subscriptions.length)
  | publish (e : Event) :
    Effect r (.publish e) ({ r with bus := (r.bus.publish e).1 },
      .count (r.bus.listenerCount e.channel))
  | receive {i : Nat} {s : Subscription} (there : r.subscription? i = some s) :
    Effect r (.receive i)
      ({ r with subscriptions := r.subscriptions.set i (some (s.receive r.bus).2) },
        .received (s.receive r.bus).1)
  | drain {i : Nat} {s : Subscription} (there : r.subscription? i = some s) :
    Effect r (.drain i)
      ({ r with subscriptions := r.subscriptions.set i (some (s.drain r.bus).2) },
        .drained (s.drain r.bus).1)
  | leave {i : Nat} {s : Subscription} (there : r.subscription? i = some s) :
    Effect r (.leave i) (⟨r.bus.leave s, r.subscriptions.set i none⟩, .left true)
  | addHandle :
    Effect r .addHandle ({ r with bus := r.bus.addHandle }, .count r.bus.addHandle.handles)
  | dropHandle :
    Effect r .dropHandle ({ r with bus := r.bus.dropHandle }, .count r.bus.dropHandle.handles)

/-- Every operation has one of these effects. -/
theorem effect_step (r : Run) (op : Operation) : Effect r op (r.step op) := by
  unfold step
  split
  · exact .nothing (by cases op <;> rfl)
  · cases op with
    | join n => exact .join n
    | publish e =>
      simp only [snd_publish]
      exact .publish e
    | receive i =>
      cases hi : r.subscription? i with
      | none =>
        simp only [hi]
        exact .nothing rfl
      | some s =>
        simp only [hi]
        exact .receive hi
    | drain i =>
      cases hi : r.subscription? i with
      | none =>
        simp only [hi]
        exact .nothing rfl
      | some s =>
        simp only [hi]
        exact .drain hi
    | leave i =>
      cases hi : r.subscription? i with
      | none =>
        simp only [hi]
        exact .nothing rfl
      | some s =>
        simp only [hi]
        exact .leave hi
    | listenerCount n => exact .nothing rfl
    | receiverCount => exact .nothing rfl
    | addHandle => exact .addHandle
    | dropHandle => exact .dropHandle

/-- Every operation keeps the books: the bus goes on serving those that have
not left, and its row grows by what entered the channel. -/
theorem serves_step (h : r.bus.Serves r.live log) (op : Operation) :
    (r.step op).1.bus.Serves (r.step op).1.live (log ++ op.entered (r.step op).2) := by
  have heffect := effect_step r op
  generalize r.step op = p at heffect ⊢
  cases heffect with
  | nothing quiet => rwa [Operation.entered_of_isQuiet quiet, List.append_nil]
  | join n =>
    have hlive : (r.subscriptions ++ [some (r.bus.join n).2]).filterMap id =
        r.live ++ [(r.bus.join n).2] := by
      rw [List.filterMap_append]
      rfl
    simp only [live, Operation.entered, List.append_nil]
    rw [hlive]
    exact h.join n
  | publish e => exact h.publish e
  | receive there =>
    obtain ⟨xs, ys, hlive, hset⟩ := exists_live_split there
    simp only [live, Operation.entered, List.append_nil]
    rw [hset]
    rw [hlive] at h
    exact h.receive
  | drain there =>
    obtain ⟨xs, ys, hlive, hset⟩ := exists_live_split there
    simp only [live, Operation.entered, List.append_nil]
    rw [hset]
    rw [hlive] at h
    exact h.drainFor _
  | leave there =>
    obtain ⟨xs, ys, hlive, hset⟩ := exists_live_split there
    simp only [live, Operation.entered, List.append_nil]
    rw [hset]
    rw [hlive] at h
    exact h.leave
  | addHandle =>
    simp only [Operation.entered, List.append_nil]
    exact h.addHandle
  | dropHandle =>
    simp only [Operation.entered, List.append_nil]
    exact h.dropHandle

/-- No operation adds to the slots. -/
theorem slots_step (r : Run) (op : Operation) :
    (r.step op).1.bus.channel.slots = r.bus.channel.slots := by
  have heffect := effect_step r op
  generalize r.step op = p at heffect ⊢
  cases heffect with
  | publish e => exact slots_publish r.bus e
  | _ => rfl

/-! ## Runs -/

/-- The books are kept through a whole run. -/
theorem serves_steps (h : r.bus.Serves r.live log) (ops : List Operation) :
    (r.steps ops).1.bus.Serves (r.steps ops).1.live (log ++ entered ops (r.steps ops).2) := by
  induction ops generalizing r log with
  | nil => simpa [steps, entered] using h
  | cons op ops ih =>
    have hrest := ih (serves_step h op)
    rw [List.append_assoc] at hrest
    exact hrest

/-- A run in two parts. -/
theorem steps_append (r : Run) (as bs : List Operation) :
    r.steps (as ++ bs) =
      (((r.steps as).1.steps bs).1, (r.steps as).2 ++ ((r.steps as).1.steps bs).2) := by
  induction as generalizing r with
  | nil => rfl
  | cons a as ih =>
    simp only [List.cons_append, steps]
    rw [ih]

/-- The run leads from a new bus of this capacity to this state. -/
def Reached (capacity : Nat) (r : Run) : Prop :=
  ∃ r₀ ops, start capacity = .ok r₀ ∧ (r₀.steps ops).1 = r

theorem bus_of_start {capacity : Nat} {r₀ : Run} (h : start capacity = .ok r₀) :
    create capacity = .ok r₀.bus ∧ r₀.subscriptions = [] := by
  rw [start] at h
  cases hb : create capacity with
  | error e =>
    rw [hb] at h
    cases h
  | ok b =>
    rw [hb] at h
    cases h
    exact ⟨rfl, rfl⟩

/-- In a state that was reached the books are right. -/
theorem Reached.serves {capacity : Nat} (h : Reached capacity r) :
    ∃ log, r.bus.Serves r.live log := by
  obtain ⟨r₀, ops, hstart, rfl⟩ := h
  obtain ⟨hcreate, hnone⟩ := bus_of_start hstart
  have hserves : r₀.bus.Serves r₀.live [] := by
    rw [live, hnone]
    exact serves_create hcreate
  exact ⟨_, serves_steps hserves ops⟩

theorem slots_steps (r : Run) (ops : List Operation) :
    (r.steps ops).1.bus.channel.slots = r.bus.channel.slots := by
  induction ops generalizing r with
  | nil => rfl
  | cons op ops ih => exact (ih (r.step op).1).trans (slots_step r op)

/-- In a state that was reached the slots are those of the new bus. -/
theorem Reached.slots_eq {capacity : Nat} (h : Reached capacity r) :
    r.bus.channel.slots = slotsFor (max capacity 1) := by
  obtain ⟨r₀, ops, hstart, rfl⟩ := h
  rw [slots_steps, slots_create (bus_of_start hstart).1]

/-! ## What the books say -/

/-- All counts together, namespace by namespace. -/
theorem sum_listenerCount (r : Run) (h : r.bus.joined.Proper) :
    ((r.bus.joined.map (·.1)).map r.bus.listenerCount).sum = r.bus.joined.total := by
  rw [List.map_map, Counts.total_eq_sum]
  congr 1
  apply List.map_congr_left
  intro p hp
  exact Counts.count_eq_of_mem h hp

/-- **The books are right** in every state that a run leads to.  The count
of a namespace is the number of its subscriptions; no namespace is listed
with zero, or twice; and the receivers are as many as all counts together.
A subscription that leaves finds its count above zero, and takes one off.

So publishing tells how many listen.  If anyone does, the channel takes the
event and nothing else; if nobody does, whatever comes later comes as if
nothing had been published. -/
theorem books_agree {capacity : Nat} {r : Run} (h : Reached capacity r) :
    (∀ n, r.bus.listenerCount n = r.live.countP (·.channel = n)) ∧
    (∀ p ∈ r.bus.joined, p.2 ≠ 0) ∧ (r.bus.joined.map (·.1)).Nodup ∧
    (∀ s ∈ r.live,
      (r.bus.leave s).listenerCount s.channel + 1 = r.bus.listenerCount s.channel) ∧
    r.bus.receiverCount = ((r.bus.joined.map (·.1)).map r.bus.listenerCount).sum ∧
    r.bus.receiverCount = r.live.length ∧
    ∀ e,
      (r.bus.publish e).2 = r.live.countP (·.channel = e.channel) ∧
      ((r.bus.publish e).2 ≠ 0 → ∃ c, r.bus.channel.send? e = some c ∧
        (r.bus.publish e).1.channel = c ∧ c.sent = r.bus.channel.sent + 1 ∧
        c.kept = Channel.newest c.slots (r.bus.channel.kept ++ [e])) ∧
      ((r.bus.publish e).2 = 0 →
        ∀ later, (r.step (.publish e)).1.steps later = r.steps later) := by
  obtain ⟨log, hs⟩ := h.serves
  have hsum := sum_listenerCount r hs.proper
  refine ⟨hs.counts, fun p hp => Nat.ne_of_gt (hs.proper.positive p hp), hs.proper.distinct,
    fun s hlive => ?_, ?_, hs.receivers, fun e => ⟨?_, fun hpos => ?_, fun hzero later => ?_⟩⟩
  · have hleave := hs.listenerCount_leave hlive s.channel
    rwa [if_pos rfl] at hleave
  · rw [hsum, hs.receivers, hs.total]
  · rw [snd_publish, hs.counts]
  · rw [snd_publish] at hpos
    have hlisten := Nat.pos_of_ne_zero hpos
    exact ⟨_, hs.send?_eq hlisten, by rw [hs.publish_eq hlisten], rfl, rfl⟩
  · rw [snd_publish] at hzero
    have hsame : (r.step (.publish e)).1 = r := by
      have heffect := effect_step r (.publish e)
      generalize r.step (.publish e) = p at heffect ⊢
      cases heffect with
      | nothing => rfl
      | publish => rw [publish_eq_self hzero]
    rw [hsame]

/-- Of two subscriptions on one namespace and one on another, the first
leaves: the counts are one and one, and publishing reaches one. -/
theorem books_agree_one_left :
    let other : Namespace := ⟨"other", by decide⟩
    let r₀ : Run := ⟨⟨Channel.create 2, []⟩, []⟩
    let r := (r₀.steps [.join .standard, .join .standard, .join other, .leave 0]).1
    Reached 2 r ∧ r.bus.listenerCount .standard = 1 ∧ r.bus.listenerCount other = 1 ∧
      r.bus.receiverCount = 2 ∧ ∀ name data now,
        (r.bus.publish (Event.publishedAt now .standard name data)).2 = 1 := by
  intro other r₀ r
  have h : Reached 2 r := ⟨r₀, _, rfl, rfl⟩
  obtain ⟨hcount, -, -, -, -, htotal, hpublish⟩ := books_agree h
  refine ⟨h, (hcount _).trans ?_, (hcount _).trans ?_, htotal.trans rfl, fun name data now => ?_⟩
  · decide
  · decide
  · rw [(hpublish _).1]
    show r.live.countP (·.channel = Namespace.standard) = 1
    decide

end Run

end Bus

end EventFeed
