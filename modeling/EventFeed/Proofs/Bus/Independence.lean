import EventFeed.Proofs.Bus.Closing

/-!
# EventFeed.Proofs.Bus.Independence

Whether and when one subscription receives is nothing to the others.  The
channel keeps what its slots hold and each subscription has a place of its own
in it, so a reception moves that place and touches nothing else.

Two runs that differ only in the receptions of one subscription are compared
step by step.  Their buses stay the same, and so do all subscriptions but that
one, which is on the same namespace in both (`Run.AlikeBut`).  Hence every
other operation gets the same answer in both (`Run.independent_of_receptions`),
however far that one falls behind.
-/

namespace EventFeed

namespace Bus

/-! ## Leaving receptions out -/

/-- Does the subscription of this number receive by the operation? -/
def Operation.isReceptionOf (i : Nat) : Operation → Bool
  | .receive j | .drain j => j == i
  | _ => false

/-- The operations without the receptions of one subscription. -/
def unreceived (i : Nat) (ops : List Operation) : List Operation :=
  ops.filter (!·.isReceptionOf i)

/-- The operations with their answers, without the receptions of one
subscription. -/
def answersBeside (i : Nat) (ops : List Operation) (outcomes : List Outcome) :
    List (Operation × Outcome) :=
  (ops.zip outcomes).filter (!·.1.isReceptionOf i)

variable {i j : Nat} {op : Operation} {ops ops' : List Operation} {outcomes : List Outcome}

/-- What one subscription receives is no sight of another one. -/
theorem Operation.sights_of_isReceptionOf (h : op.isReceptionOf i = true) (hj : j ≠ i)
    (o : Outcome) : op.sights j o = [] := by
  unfold isReceptionOf at h
  split at h
  · next k =>
    obtain rfl := beq_iff_eq.1 h
    cases o <;> simp [sights, Ne.symm hj]
  · next k =>
    obtain rfl := beq_iff_eq.1 h
    cases o <;> simp [sights, Ne.symm hj]
  · cases h

/-- So it sees the same without those operations. -/
theorem sights_eq_answersBeside (hj : j ≠ i) (ops : List Operation) (outcomes : List Outcome) :
    sights j ops outcomes = (answersBeside i ops outcomes).flatMap fun p => p.1.sights j p.2 := by
  rw [sights, answersBeside]
  induction ops.zip outcomes with
  | nil => rfl
  | cons p ps ih =>
    rw [List.flatMap_cons, ih]
    cases hp : p.1.isReceptionOf i with
    | true =>
      rw [List.filter_cons_of_neg (by simp [hp]), Operation.sights_of_isReceptionOf hp hj,
        List.nil_append]
    | false => rw [List.filter_cons_of_pos (by simp [hp]), List.flatMap_cons]

namespace Run

/-! ## Two runs -/

/-- The runs have the same bus and the same subscriptions, but for how far one
of these has come. -/
structure AlikeBut (i : Nat) (r r' : Run) : Prop where
  bus : r'.bus = r.bus
  length : r'.subscriptions.length = r.subscriptions.length
  others : ∀ j, j ≠ i → r'.subscription? j = r.subscription? j
  channel : (r'.subscription? i).map (·.channel) = (r.subscription? i).map (·.channel)

variable {r r' : Run}

theorem AlikeBut.refl (i : Nat) (r : Run) : AlikeBut i r r := ⟨rfl, rfl, fun _ _ => rfl, rfl⟩

/-- Both have the subscription of a number, on the same namespace, or neither
has. -/
theorem AlikeBut.channel_eq (h : AlikeBut i r r') (j : Nat) :
    (r'.subscription? j).map (·.channel) = (r.subscription? j).map (·.channel) := by
  by_cases hj : j = i
  · rw [hj]
    exact h.channel
  · rw [h.others j hj]

/-- The subscriptions after one place was given something else. -/
theorem subscription?_set (r : Run) (b : Bus) (j k : Nat) (v : Option Subscription) :
    subscription? ⟨b, r.subscriptions.set j v⟩ k =
      if j = k ∧ k < r.subscriptions.length then v else r.subscription? k := by
  by_cases hj : j = k
  · subst hj
    by_cases hlt : j < r.subscriptions.length
    · rw [subscription?_set_self hlt, if_pos ⟨rfl, hlt⟩]
    · rw [if_neg fun hboth => hlt hboth.2, List.set_eq_of_length_le (Nat.not_lt.1 hlt)]
      rfl
  · rw [subscription?_set_ne hj, if_neg fun hboth => hj hboth.1]

/-- Whatever is put in one place of both leaves them alike, if it is the same or
stands in the place where they may differ. -/
theorem AlikeBut.set (h : AlikeBut i r r') (b : Bus) (j : Nat) {v v' : Option Subscription}
    (hsame : j ≠ i → v' = v) (hchannel : v'.map (·.channel) = v.map (·.channel)) :
    AlikeBut i ⟨b, r.subscriptions.set j v⟩ ⟨b, r'.subscriptions.set j v'⟩ where
  bus := rfl
  length := by rw [List.length_set, List.length_set, h.length]
  others := by
    intro k hk
    rw [subscription?_set, subscription?_set, h.length, h.others k hk]
    split
    · next hboth => exact hsame fun he => hk (hboth.1 ▸ he)
    · rfl
  channel := by
    rw [subscription?_set, subscription?_set, h.length]
    split
    · exact hchannel
    · exact h.channel

/-- What happens to the bus happens in both. -/
theorem AlikeBut.with_bus (h : AlikeBut i r r') (b : Bus) :
    AlikeBut i { r with bus := b } { r' with bus := b } := ⟨rfl, h.length, h.others, h.channel⟩

/-- Whoever joins stands behind all others, in both. -/
theorem AlikeBut.joined (h : AlikeBut i r r') (b : Bus) (s : Subscription) :
    AlikeBut i ⟨b, r.subscriptions ++ [some s]⟩ ⟨b, r'.subscriptions ++ [some s]⟩ := by
  have hnew (q : Run) (k : Nat) : subscription? ⟨b, q.subscriptions ++ [some s]⟩ k =
      if k = q.subscriptions.length then some s else q.subscription? k := by
    simp only [subscription?, List.getElem?_append]
    grind
  refine ⟨rfl, by simp [h.length], fun k hk => ?_, ?_⟩
  · rw [hnew, hnew, h.length, h.others k hk]
  · rw [hnew, hnew, h.length]
    split
    · rfl
    · exact h.channel

/-! ## Steps -/

/-- **Both make the same step and get the same answer**, unless the subscription
receives by it. -/
theorem AlikeBut.step (h : AlikeBut i r r') (hop : op.isReceptionOf i = false) :
    AlikeBut i (r.step op).1 (r'.step op).1 ∧ (r'.step op).2 = (r.step op).2 := by
  unfold Run.step
  rw [h.bus]
  split
  · exact ⟨h, rfl⟩
  cases op with
  | join n => exact ⟨h.joined _ _, congrArg Outcome.joined h.length⟩
  | publish e => exact ⟨h.with_bus _, rfl⟩
  | receive j =>
    have hj : j ≠ i := by simpa [Operation.isReceptionOf] using hop
    simp only [h.others j hj]
    cases r.subscription? j with
    | none => exact ⟨h, rfl⟩
    | some s => exact ⟨h.bus ▸ h.set _ j (fun _ => rfl) rfl, rfl⟩
  | drain j =>
    have hj : j ≠ i := by simpa [Operation.isReceptionOf] using hop
    simp only [h.others j hj]
    cases r.subscription? j with
    | none => exact ⟨h, rfl⟩
    | some s => exact ⟨h.bus ▸ h.set _ j (fun _ => rfl) rfl, rfl⟩
  | leave j =>
    -- the one that may differ leaves the same namespace, so the bus loses the same
    have hchannel := h.channel_eq j
    cases hs : r.subscription? j with
    | none =>
      rw [hs] at hchannel
      simp only [hs, Option.map_eq_none_iff.1 hchannel]
      exact ⟨h, trivial⟩
    | some s =>
      rw [hs, Option.map_some, Option.map_eq_some_iff] at hchannel
      obtain ⟨s', hs', hsame⟩ := hchannel
      have hleave : r.bus.leave s' = r.bus.leave s := by rw [Bus.leave, Bus.leave, hsame]
      simp only [hs, hs', hleave]
      exact ⟨h.set _ j (fun _ => rfl) rfl, trivial⟩
  | listenerCount n => exact ⟨h, rfl⟩
  | receiverCount => exact ⟨h, rfl⟩
  | addHandle => exact ⟨h.with_bus _, rfl⟩
  | dropHandle => exact ⟨h.with_bus _, rfl⟩

/-- A reception of the subscription leaves them alike. -/
theorem AlikeBut.of_reception (h : AlikeBut i r r') (hop : op.isReceptionOf i = true) :
    AlikeBut i (r.step op).1 r' := by
  have hmoved {s t : Subscription} (hs : r.subscription? i = some s) (ht : t.channel = s.channel) :
      AlikeBut i { r with subscriptions := r.subscriptions.set i (some t) } r' := by
    refine ⟨h.bus, by rw [List.length_set, h.length], fun k hk => ?_, ?_⟩
    · rw [subscription?_set, if_neg fun hboth => hk hboth.1.symm, h.others k hk]
    · rw [h.channel, subscription?_set, hs]
      split
      · exact congrArg some ht.symm
      · rfl
  have heffect := effect_step r op
  generalize r.step op = p at heffect ⊢
  cases heffect with
  | nothing => exact h
  | receive there =>
    obtain rfl := beq_iff_eq.1 hop
    exact hmoved there rfl
  | drain there =>
    obtain rfl := beq_iff_eq.1 hop
    exact hmoved there (channel_drainFor _ _ _)
  | join => cases hop
  | publish => cases hop
  | leave => cases hop
  | addHandle => cases hop
  | dropHandle => cases hop

/-! ## Runs -/

/-- **A run is like the run without the receptions of one subscription**, and
the other operations are answered the same. -/
theorem AlikeBut.steps (h : AlikeBut i r r') (ops : List Operation) :
    AlikeBut i (r.steps ops).1 (r'.steps (unreceived i ops)).1 ∧
      answersBeside i ops (r.steps ops).2 =
        (unreceived i ops).zip (r'.steps (unreceived i ops)).2 := by
  induction ops generalizing r r' with
  | nil => exact ⟨h, rfl⟩
  | cons op ops ih =>
    cases hop : op.isReceptionOf i with
    | true =>
      have hskip : unreceived i (op :: ops) = unreceived i ops := by simp [unreceived, hop]
      obtain ⟨halike, hanswers⟩ := ih (h.of_reception hop)
      rw [hskip]
      refine ⟨halike, ?_⟩
      rw [← hanswers, steps, answersBeside, List.zip_cons_cons,
        List.filter_cons_of_neg (by simp [hop])]
      rfl
    | false =>
      have hkeep : unreceived i (op :: ops) = op :: unreceived i ops := by simp [unreceived, hop]
      obtain ⟨hstep, hanswer⟩ := h.step hop
      obtain ⟨halike, hanswers⟩ := ih hstep
      rw [hkeep]
      refine ⟨halike, ?_⟩
      rw [steps, steps, answersBeside, List.zip_cons_cons, List.zip_cons_cons,
        List.filter_cons_of_pos (by simp [hop]), ← hanswers, hanswer]
      rfl

/-- **Whether and when one subscription receives is nothing to the others.**  Two
lists of operations that are the same but for receptions of one subscription are
run from one state.  Every other operation is answered the same: what is
published reaches as many, all counts are the same, and so are the numbers of
those who join.  Every other subscription gets the same, be it an event, the
report of a lag, that nothing has come or that the bus is closed.  In the end
the bus is the same, and all others have come as far. -/
theorem independent_of_receptions (r : Run) {i : Nat} {ops ops' : List Operation}
    (h : unreceived i ops' = unreceived i ops) :
    answersBeside i ops' (r.steps ops').2 = answersBeside i ops (r.steps ops).2 ∧
    (∀ j, j ≠ i → receptions j ops' (r.steps ops').2 = receptions j ops (r.steps ops).2) ∧
    AlikeBut i (r.steps ops).1 (r.steps ops').1 := by
  obtain ⟨halike, hanswers⟩ := (AlikeBut.refl i r).steps ops
  obtain ⟨halike', hanswers'⟩ := (AlikeBut.refl i r).steps ops'
  rw [h] at halike' hanswers'
  have hsame := hanswers'.trans hanswers.symm
  refine ⟨hsame, fun j hj => ?_, ?_⟩
  · rw [receptions, receptions, sights_eq_answersBeside hj, sights_eq_answersBeside hj, hsame]
  · exact ⟨halike'.bus.symm.trans halike.bus, halike'.length.symm.trans halike.length,
      fun j hj => (halike'.others j hj).symm.trans (halike.others j hj),
      halike'.channel.symm.trans halike.channel⟩

/-- Two subscriptions share two slots, and three events come.  The first one is
told that one is lost, and gets two, whether the second one receives between the
events, and so keeps up, or only once at the end, and then falls behind too. -/
theorem independent_of_late_receptions :
    let e := Event.publishedAt default .standard "name" (.bool true)
    let other : Namespace := ⟨"other", by decide⟩
    let r : Run := ⟨⟨Channel.create 2, []⟩, []⟩
    let ops := [.join .standard, .join other, .publish e, .receive 1, .publish e, .publish e,
      .drain 1, .drain 0, .leave 1, .receiverCount]
    let ops' := [.join .standard, .join other, .publish e, .publish e, .publish e, .drain 0,
      .receive 1, .leave 1, .receiverCount]
    unreceived 1 ops' = unreceived 1 ops ∧
      receptions 0 ops' (r.steps ops').2 = receptions 0 ops (r.steps ops).2 ∧
      Sight.lost (sights 0 ops (r.steps ops).2) = 1 ∧
      (Sight.items (sights 0 ops (r.steps ops).2)).length = 2 ∧
      Sight.lost (sights 1 ops (r.steps ops).2) = 0 ∧
      Sight.lost (sights 1 ops' (r.steps ops').2) = 1 := by
  intro e other r ops ops'
  have h : unreceived 1 ops' = unreceived 1 ops := rfl
  obtain ⟨-, hothers, -⟩ := independent_of_receptions r h
  refine ⟨h, hothers 0 (by decide), ?_, ?_, ?_, ?_⟩
  · decide +kernel
  · decide +kernel
  · decide +kernel
  · decide +kernel

end Run

end Bus

end EventFeed
