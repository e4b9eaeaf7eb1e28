import EventFeed.Proofs.Bus.Counts
import EventFeed.Proofs.Bus.Reception

/-!
# EventFeed.Proofs.Bus.Service

What a bus keeps to, whoever uses it.  A bus `Serves` a row of
subscriptions, having sent a row of events, if

* its channel holds the events, and no subscription is ahead of them;
* its counts are proper, and count the subscriptions of each namespace;
* the receivers of the channel are as many as the subscriptions.

The last two are kept by different hands: the counts by the bus, and the
number of receivers by the channel.  Each operation keeps the two alike.
-/

namespace EventFeed

/-! ## One place in a row -/

/-- What a row selects around one of its places, and what it selects when
that place is given something else. -/
theorem filterMap_set_split {α β : Type} {f : α → Option β} {l : List α} {i : Nat} {a : α} {b : β}
    (ha : l[i]? = some a) (hb : f a = some b) :
    ∃ xs ys, l.filterMap f = xs ++ b :: ys ∧
      ∀ v, (l.set i v).filterMap f = xs ++ ((f v).toList ++ ys) := by
  obtain ⟨hi, hget⟩ := List.getElem?_eq_some_iff.1 ha
  refine ⟨(l.take i).filterMap f, (l.drop (i + 1)).filterMap f, ?_, fun v => ?_⟩
  · have hl : l = l.take i ++ a :: l.drop (i + 1) := by
      rw [← hget, List.getElem_cons_drop, List.take_append_drop]
    conv => lhs; rw [hl]
    rw [List.filterMap_append, List.filterMap_cons_some hb]
  · rw [List.set_eq_take_append_cons_drop, if_pos hi, List.filterMap_append]
    congr 1
    cases hv : f v with
    | none => rw [List.filterMap_cons_none hv]; rfl
    | some w => rw [List.filterMap_cons_some hv]; rfl

namespace Bus

/-! ## Service -/

/-- The bus serves these subscriptions and no others, and these are the
events that were sent. -/
structure Serves (b : Bus) (subs : List Subscription) (log : List Event) : Prop where
  holds : b.channel.Holds log
  within : ∀ s ∈ subs, s.receiver.next ≤ log.length
  proper : b.joined.Proper
  counts : ∀ n, b.listenerCount n = subs.countP (·.channel = n)
  total : b.joined.total = subs.length
  receivers : b.receiverCount = subs.length

variable {b : Bus} {subs xs ys : List Subscription} {log : List Event}

theorem serves_create {capacity : Nat} (h : create capacity = .ok b) : b.Serves [] [] := by
  rw [create] at h
  split at h
  · cases h
    exact ⟨Channel.holds_create _, fun s hs => absurd hs List.not_mem_nil, Counts.proper_nil,
      fun n => rfl, rfl, rfl⟩
  · cases h

/-- The slots of a new bus. -/
theorem slots_create {capacity : Nat} (h : create capacity = .ok b) :
    b.channel.slots = slotsFor (max capacity 1) := by
  rw [create] at h
  split at h
  · cases h
    rfl
  · cases h

/-- Whoever joins is counted on the namespace, and nowhere else. -/
theorem listenerCount_join (b : Bus) (n m : Namespace) :
    (b.join n).1.listenerCount m = b.listenerCount m + if n = m then 1 else 0 := by
  have hcount : (b.join n).1.listenerCount m = _ := Counts.count_increment n m b.joined
  rw [hcount, listenerCount]
  split <;> rfl

theorem Serves.join (h : b.Serves subs log) (n : Namespace) :
    (b.join n).1.Serves (subs ++ [(b.join n).2]) log where
  holds := h.holds.subscribe
  within := by
    intro s hs
    cases List.mem_append.1 hs with
    | inl hs => exact h.within s hs
    | inr hs =>
      obtain rfl := List.mem_singleton.1 hs
      exact Nat.le_of_eq h.holds.sent_eq
  proper := h.proper.increment n
  counts := by
    intro m
    have hm : b.joined.count m = _ := h.counts m
    show (b.joined.increment n).count m = _
    rw [Counts.count_increment, List.countP_append, List.countP_singleton, ← hm]
    by_cases he : n = m
    · simp [Bus.join, he]
    · simp [Bus.join, he]
  total := by
    rw [List.length_append, ← h.total]
    exact Counts.total_increment n b.joined
  receivers := by
    rw [List.length_append, ← h.receivers]
    rfl

/-- A subscription that is served counts for its namespace. -/
theorem Serves.listenerCount_pos (h : b.Serves subs log) {s : Subscription} (hs : s ∈ subs) :
    0 < b.listenerCount s.channel := by
  rw [h.counts]
  exact List.countP_pos_iff.2 ⟨s, hs, decide_eq_true rfl⟩

/-- When a subscription leaves, its namespace loses one, and no other does. -/
theorem Serves.listenerCount_leave (h : b.Serves subs log) {s : Subscription} (hs : s ∈ subs)
    (n : Namespace) :
    (b.leave s).listenerCount n + (if s.channel = n then 1 else 0) = b.listenerCount n := by
  have hpos := h.listenerCount_pos hs
  show (b.joined.decrement s.channel).count n + _ = b.joined.count n
  rw [Counts.count_decrement h.proper]
  by_cases he : s.channel = n
  · subst he
    simp only [if_true]
    exact Nat.sub_add_cancel hpos
  · simp only [he, if_false, Nat.add_zero]

theorem Serves.leave {s : Subscription} (h : b.Serves (xs ++ s :: ys) log) :
    (b.leave s).Serves (xs ++ ys) log where
  holds := h.holds.unsubscribe
  within := by
    intro t ht
    apply h.within t
    grind
  proper := h.proper.decrement s.channel
  counts := by
    intro n
    have hleave := h.listenerCount_leave (s := s) (by simp) n
    rw [h.counts n, List.countP_append, List.countP_cons] at hleave
    rw [List.countP_append]
    simp only [decide_eq_true_eq] at hleave
    omega
  total := by
    have htotal := Counts.total_decrement (h.listenerCount_pos (s := s) (by simp))
    have hsum := h.total
    simp only [List.length_append, List.length_cons] at hsum ⊢
    show (b.joined.decrement s.channel).total = _
    omega
  receivers := by
    have hsum : b.channel.receivers = _ := h.receivers
    simp only [List.length_append, List.length_cons] at hsum ⊢
    show b.channel.receivers - 1 = _
    omega

/-- Moving a receiver on within the row changes nothing for the bus. -/
theorem Serves.move {s : Subscription} (h : b.Serves (xs ++ s :: ys) log) {r : Receiver}
    (hr : r.next ≤ log.length) : b.Serves (xs ++ { s with receiver := r } :: ys) log where
  holds := h.holds
  within := by
    intro t ht
    cases List.mem_append.1 ht with
    | inl ht => exact h.within t (List.mem_append_left _ ht)
    | inr ht =>
      cases List.mem_cons.1 ht with
      | inl he =>
        subst he
        exact hr
      | inr ht => exact h.within t (List.mem_append_right _ (List.mem_cons_of_mem s ht))
  proper := h.proper
  counts := by
    intro n
    rw [h.counts n, List.countP_append, List.countP_append, List.countP_cons, List.countP_cons]
  total := by rw [h.total, List.length_append, List.length_append]; rfl
  receivers := by rw [h.receivers, List.length_append, List.length_append]; rfl

theorem Serves.addHandle (h : b.Serves subs log) : b.addHandle.Serves subs log :=
  ⟨h.holds.addSender, h.within, h.proper, h.counts, h.total, h.receivers⟩

theorem Serves.dropHandle (h : b.Serves subs log) : b.dropHandle.Serves subs log :=
  ⟨h.holds.dropSender, h.within, h.proper, h.counts, h.total, h.receivers⟩

/-! ## Publishing -/

/-- The events that enter the channel when one is published. -/
def entering (b : Bus) (e : Event) : List Event := if 0 < b.listenerCount e.channel then [e] else []

/-- An event that somebody listens for is never refused by the channel,
because whoever listens has a receiver. -/
theorem Serves.send?_eq (h : b.Serves subs log) {e : Event} (he : 0 < b.listenerCount e.channel) :
    b.channel.send? e = some { b.channel with
      kept := Channel.newest b.channel.slots (b.channel.kept ++ [e])
      sent := b.channel.sent + 1 } := by
  have hlen : subs.countP (·.channel = e.channel) ≤ subs.length := List.countP_le_length
  have hrec : b.channel.receivers = subs.length := h.receivers
  rw [h.counts] at he
  rw [Channel.send?, if_neg (by omega)]

/-- What nobody listens for changes nothing. -/
theorem publish_eq_self {e : Event} (he : b.listenerCount e.channel = 0) :
    b.publish e = (b, 0) := by
  simp [publish, he]

theorem Serves.publish_eq (h : b.Serves subs log) {e : Event}
    (he : 0 < b.listenerCount e.channel) :
    b.publish e = ({ b with channel := { b.channel with
      kept := Channel.newest b.channel.slots (b.channel.kept ++ [e])
      sent := b.channel.sent + 1 } }, b.listenerCount e.channel) := by
  simp [publish, he, h.send?_eq he]

theorem Serves.publish (h : b.Serves subs log) (e : Event) :
    (b.publish e).1.Serves subs (log ++ b.entering e) := by
  by_cases he : 0 < b.listenerCount e.channel
  · rw [h.publish_eq he, entering, if_pos he]
    refine ⟨h.holds.send e, fun s hs => ?_, h.proper, h.counts, h.total, h.receivers⟩
    rw [List.length_append]
    exact Nat.le_add_right_of_le (h.within s hs)
  · rw [publish_eq_self (Nat.eq_zero_of_not_pos he), entering, if_neg he, List.append_nil]
    exact h

/-- Publishing tells how many listen. -/
theorem snd_publish (b : Bus) (e : Event) : (b.publish e).2 = b.listenerCount e.channel := by
  rw [Bus.publish]
  split <;> rfl

/-- No event adds to the slots. -/
theorem slots_publish (b : Bus) (e : Event) :
    (b.publish e).1.channel.slots = b.channel.slots := by
  rw [Bus.publish]
  split
  · rw [Channel.send?]
    split <;> rfl
  · rfl

/-! ## Receiving -/

/-- A subscription that is served takes a step on what lies ahead of it. -/
theorem Serves.takes (h : b.Serves subs log) {s : Subscription} (hs : s ∈ subs) :
    Channel.Takes b.channel.slots s.wants b.channel.isClosed (log.drop s.receiver.next)
      (s.receive b).1 (log.drop (s.receive b).2.receiver.next) :=
  (h.holds.takes s.wants (h.within s hs)).1

theorem Serves.receive {s : Subscription} (h : b.Serves (xs ++ s :: ys) log) :
    b.Serves (xs ++ (s.receive b).2 :: ys) log :=
  h.move (h.holds.takes s.wants (h.within s (by simp))).2

/-- Draining receives once, and goes on unless that was the last. -/
theorem drainFor_succ (b : Bus) (fuel : Nat) (s : Subscription) :
    Subscription.drainFor b (fuel + 1) s =
      if Subscription.isLast (s.receive b).1 then ([(s.receive b).1], (s.receive b).2)
      else ((s.receive b).1 :: (Subscription.drainFor b fuel (s.receive b).2).1,
        (Subscription.drainFor b fuel (s.receive b).2).2) := rfl

/-- A subscription stays with its namespace. -/
theorem channel_drainFor (b : Bus) (fuel : Nat) (s : Subscription) :
    (Subscription.drainFor b fuel s).2.channel = s.channel := by
  induction fuel generalizing s with
  | zero => rfl
  | succ fuel ih =>
    rw [drainFor_succ]
    split
    · rfl
    · exact ih _

theorem Serves.drainFor {s : Subscription} (h : b.Serves (xs ++ s :: ys) log) (fuel : Nat) :
    b.Serves (xs ++ (Subscription.drainFor b fuel s).2 :: ys) log := by
  induction fuel generalizing s with
  | zero => exact h
  | succ fuel ih =>
    rw [drainFor_succ]
    split
    · exact h.receive
    · exact ih h.receive

end Bus

end EventFeed
