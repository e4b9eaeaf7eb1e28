import EventFeed.Bus.Basic
import Mathlib.Algebra.Ring.Nat

/-!
# EventFeed.Proofs.Bus.Counts

Laws of the counts that a bus keeps of its subscriptions.  Counts are
*proper* if they list each namespace once and none with zero; one more and
one less keep them so, and change one count and the total by one.

Only proper counts can go down as `decrement` promises: were a namespace
listed twice, the second entry would come to light behind the first.
-/

namespace EventFeed

namespace Counts

/-- Each namespace is listed once, and none of them with zero. -/
structure Proper (cs : Counts) : Prop where
  distinct : (cs.map (·.1)).Nodup
  positive : ∀ p ∈ cs, 0 < p.2

theorem proper_nil : Proper [] := ⟨List.nodup_nil, fun _ h => absurd h List.not_mem_nil⟩

/-- What is proper as a whole is proper behind its first entry. -/
theorem Proper.tail {p : Namespace × Nat} {cs : Counts} (h : Proper (p :: cs)) : Proper cs :=
  ⟨(List.nodup_cons.1 h.distinct).2, fun q hq => h.positive q (List.mem_cons_of_mem p hq)⟩

/-! ## Looking up -/

@[simp] theorem count_nil (n : Namespace) : count [] n = 0 := rfl

theorem count_cons (m n : Namespace) (k : Nat) (cs : Counts) :
    count ((m, k) :: cs) n = if m = n then k else count cs n := by
  by_cases h : m = n
  · subst h
    simp [count]
  · have hne : (n == m) = false := beq_eq_false_iff_ne.2 (Ne.symm h)
    simp [count, List.lookup_cons, hne, h]

/-- Namespaces that are not listed have no subscriptions. -/
theorem count_eq_zero_of_not_mem {cs : Counts} {n : Namespace} (h : n ∉ cs.map (·.1)) :
    cs.count n = 0 := by
  induction cs with
  | nil => rfl
  | cons p cs ih =>
    obtain ⟨m, k⟩ := p
    rw [List.map_cons, List.mem_cons, not_or] at h
    rw [count_cons, if_neg (Ne.symm h.1), ih h.2]

/-- A listed namespace has the count it is listed with. -/
theorem count_eq_of_mem {cs : Counts} (h : cs.Proper) {p : Namespace × Nat} (hp : p ∈ cs) :
    cs.count p.1 = p.2 := by
  induction cs with
  | nil => cases hp
  | cons q cs ih =>
    obtain ⟨m, k⟩ := q
    rw [count_cons]
    cases List.mem_cons.1 hp with
    | inl he =>
      subst he
      rw [if_pos rfl]
    | inr ht =>
      have hne : m ≠ p.1 := fun he =>
        (List.nodup_cons.1 h.distinct).1 (List.mem_map.2 ⟨p, ht, he.symm⟩)
      rw [if_neg hne, ih h.tail ht]

/-! ## One more -/

theorem count_increment (n m : Namespace) (cs : Counts) :
    (cs.increment n).count m = if n = m then cs.count m + 1 else cs.count m := by
  induction cs with
  | nil => simp [increment, count_cons]
  | cons p cs ih =>
    obtain ⟨l, k⟩ := p
    by_cases hl : l = n
    · subst hl
      rw [increment, if_pos rfl, count_cons, count_cons]
      split <;> rfl
    · rw [increment, if_neg hl, count_cons, count_cons, ih]
      by_cases hm : l = m
      · subst hm
        rw [if_pos rfl, if_pos rfl, if_neg (Ne.symm hl)]
      · rw [if_neg hm, if_neg hm]

theorem total_eq_sum (cs : Counts) : cs.total = (cs.map (·.2)).sum := by
  induction cs with
  | nil => rfl
  | cons p cs ih => rw [total, ih, List.map_cons, List.sum_cons]

theorem total_increment (n : Namespace) (cs : Counts) :
    (cs.increment n).total = cs.total + 1 := by
  induction cs with
  | nil => rfl
  | cons p cs ih =>
    obtain ⟨l, k⟩ := p
    by_cases hl : l = n
    · rw [increment, if_pos hl, total, total]
      omega
    · rw [increment, if_neg hl, total, total, ih]
      omega

/-- The listed namespaces are those from before and the one that was
joined. -/
theorem mem_increment {n x : Namespace} {cs : Counts} :
    x ∈ (cs.increment n).map (·.1) ↔ x = n ∨ x ∈ cs.map (·.1) := by
  induction cs with
  | nil => simp [increment]
  | cons p cs ih =>
    obtain ⟨l, k⟩ := p
    by_cases hl : l = n
    · simp [increment, hl]
    · simp only [increment, hl, if_false, List.map_cons, List.mem_cons, ih]
      grind

theorem Proper.increment {cs : Counts} (h : cs.Proper) (n : Namespace) :
    (cs.increment n).Proper := by
  induction cs with
  | nil =>
    refine ⟨by simp [Counts.increment], fun p hp => ?_⟩
    obtain rfl := List.mem_singleton.1 hp
    exact Nat.one_pos
  | cons p cs ih =>
    obtain ⟨l, k⟩ := p
    have hnot : l ∉ cs.map (·.1) := (List.nodup_cons.1 h.distinct).1
    have hk : 0 < k := h.positive (l, k) List.mem_cons_self
    by_cases hl : l = n
    · rw [Counts.increment, if_pos hl]
      refine ⟨h.distinct, fun q hq => ?_⟩
      cases List.mem_cons.1 hq with
      | inl he => rw [he]; exact Nat.succ_pos k
      | inr ht => exact h.tail.positive q ht
    · rw [Counts.increment, if_neg hl]
      have ih := ih h.tail
      refine ⟨List.nodup_cons.2 ⟨fun hc => ?_, ih.distinct⟩, fun q hq => ?_⟩
      · cases mem_increment.1 hc with
        | inl he => exact hl he
        | inr ht => exact hnot ht
      · cases List.mem_cons.1 hq with
        | inl he => rw [he]; exact hk
        | inr ht => exact ih.positive q ht

/-! ## One less -/

/-- No namespace comes to light when one leaves. -/
theorem mem_of_mem_decrement {n x : Namespace} {cs : Counts}
    (h : x ∈ (cs.decrement n).map (·.1)) : x ∈ cs.map (·.1) := by
  induction cs with
  | nil => exact h
  | cons p cs ih =>
    obtain ⟨l, k⟩ := p
    rw [decrement] at h
    split at h
    · split at h
      · exact List.mem_cons_of_mem l h
      · exact h
    · cases List.mem_cons.1 h with
      | inl he => exact List.mem_cons.2 (.inl he)
      | inr ht => exact List.mem_cons_of_mem l (ih ht)

theorem count_decrement {cs : Counts} (h : cs.Proper) (n m : Namespace) :
    (cs.decrement n).count m = if n = m then cs.count m - 1 else cs.count m := by
  induction cs with
  | nil => simp [decrement]
  | cons p cs ih =>
    obtain ⟨l, k⟩ := p
    have hnot : l ∉ cs.map (·.1) := (List.nodup_cons.1 h.distinct).1
    by_cases hl : l = n
    · subst hl
      rw [decrement, if_pos rfl, count_cons]
      by_cases hm : l = m
      · subst hm
        rw [if_pos rfl, if_pos rfl]
        split
        · next hz => rw [count_eq_zero_of_not_mem hnot, hz]
        · rw [count_cons, if_pos rfl]
      · rw [if_neg hm, if_neg hm]
        split
        · rfl
        · rw [count_cons, if_neg hm]
    · rw [decrement, if_neg hl, count_cons, count_cons, ih h.tail]
      by_cases hm : l = m
      · subst hm
        rw [if_pos rfl, if_pos rfl, if_neg (Ne.symm hl)]
      · rw [if_neg hm, if_neg hm]

/-- The total goes down with a count that is not zero. -/
theorem total_decrement {n : Namespace} {cs : Counts} (h : 0 < cs.count n) :
    (cs.decrement n).total + 1 = cs.total := by
  induction cs with
  | nil => simp at h
  | cons p cs ih =>
    obtain ⟨l, k⟩ := p
    rw [count_cons] at h
    rw [total]
    by_cases hl : l = n
    · rw [if_pos hl] at h
      rw [decrement, if_pos hl]
      split
      · omega
      · rw [total]
        omega
    · rw [if_neg hl] at h
      have ih := ih h
      rw [decrement, if_neg hl, total]
      omega

theorem Proper.decrement {cs : Counts} (h : cs.Proper) (n : Namespace) :
    (cs.decrement n).Proper := by
  induction cs with
  | nil => exact h
  | cons p cs ih =>
    obtain ⟨l, k⟩ := p
    have hnot : l ∉ cs.map (·.1) := (List.nodup_cons.1 h.distinct).1
    have hk : 0 < k := h.positive (l, k) List.mem_cons_self
    rw [Counts.decrement]
    split
    · split
      · exact h.tail
      · next hz =>
        refine ⟨h.distinct, fun q hq => ?_⟩
        cases List.mem_cons.1 hq with
        | inl he => rw [he]; exact Nat.pos_of_ne_zero hz
        | inr ht => exact h.tail.positive q ht
    · have ih := ih h.tail
      refine ⟨List.nodup_cons.2 ⟨fun hc => hnot (mem_of_mem_decrement hc), ih.distinct⟩,
        fun q hq => ?_⟩
      cases List.mem_cons.1 hq with
      | inl he => rw [he]; exact hk
      | inr ht => exact ih.positive q ht

end Counts

end EventFeed
