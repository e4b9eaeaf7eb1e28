import EventFeed.Proofs.Json.RoundTrip

/-!
# EventFeed.Proofs.Json.Depth

How deep a reader goes.  No value is read that is deeper than the reader may
go (`depth_le_of_readValue`), and what is read does not depend on how deep it
may go beyond that (`readValue_of_le`).  Together with the reading of printed
values this says that a value that is too deep is refused wherever it stands
(`readValue_of_depth_lt`).
-/

namespace EventFeed

namespace Json

/-! ## Parts -/

theorem depthItems_le_iff {xs : List Json} {d : Nat} :
    depthItems xs ≤ d ↔ ∀ x ∈ xs, x.depth ≤ d := by
  induction xs with
  | nil => simp [depthItems]
  | cons x xs ih => rw [depthItems, Nat.max_le, ih, List.forall_mem_cons]

theorem depthMembers_le_iff {ms : List (String × Json)} {d : Nat} :
    depthMembers ms ≤ d ↔ ∀ m ∈ ms, m.2.depth ≤ d := by
  induction ms with
  | nil => simp [depthMembers]
  | cons m ms ih =>
    obtain ⟨k, x⟩ := m
    rw [depthMembers, Nat.max_le, ih, List.forall_mem_cons]

/-- Atoms have no depth. -/
theorem Atom.depth_toJson (a : Atom) : a.toJson.depth = 0 := by
  cases a <;> simp [Atom.toJson, depth]

/-! ## The limit -/

/-- **A value that was read is no deeper than the reader may go.** -/
theorem depth_le_of_readValue {bound depth : Nat} {input rest : Input} {j : Json}
    (h : readValue bound depth input = .ok (j, rest)) : j.depth ≤ depth := by
  refine induction_of_readValue (P := fun depth j => j.depth ≤ depth)
    (fun _ _ _ a _ => Nat.le_trans (Nat.le_of_eq a.depth_toJson) (Nat.zero_le _))
    (fun _ xs hxs => ?_) (fun _ ms _ hall => ?_) h
  · rw [Json.depth]
    exact Nat.succ_le_succ (depthItems_le_iff.2 hxs)
  · rw [Json.depth]
    exact Nat.succ_le_succ (depthMembers_le_iff.2 hall)

/-! ## Beyond the limit -/

/-- Items are read the same by a reader of items that reads more. -/
theorem readItems_of_imp {item item' : Input → Read Json}
    (himp : ∀ {input r}, item input = .ok r → item' input = .ok r) {bound index : Nat}
    {done : List Json} {input : Input} {r : List Json × Input}
    (h : readItems item bound index done input = .ok r) :
    readItems item' bound index done input = .ok r := by
  induction bound generalizing index done input with
  | zero => cases h
  | succ bound ih =>
    rw [readItems] at h ⊢
    obtain ⟨next, hnext, h⟩ := bind_eq_ok_iff.1 h
    refine bind_eq_ok_iff.2 ⟨next, hnext, ?_⟩
    cases next with
    | none => exact h
    | some more =>
      obtain ⟨⟨x, behind⟩, hx, h⟩ := bind_eq_ok_iff.1 h
      have hx' := himp (under_eq_ok_iff.1 hx)
      exact bind_eq_ok_iff.2 ⟨(x, behind), under_eq_ok_iff.2 hx', ih h⟩

/-- So are members. -/
theorem readMembers_of_imp {value value' : Input → Read Json}
    (himp : ∀ {input r}, value input = .ok r → value' input = .ok r) {bound : Nat} {first : Bool}
    {done : List (String × Json)} {input : Input} {r : List (String × Json) × Input}
    (h : readMembers value bound first done input = .ok r) :
    readMembers value' bound first done input = .ok r := by
  induction bound generalizing first done input with
  | zero => cases h
  | succ bound ih =>
    rw [readMembers] at h ⊢
    obtain ⟨next, hnext, h⟩ := bind_eq_ok_iff.1 h
    refine bind_eq_ok_iff.2 ⟨next, hnext, ?_⟩
    cases next with
    | none => exact h
    | some more =>
      obtain ⟨name, hname, h⟩ := bind_eq_ok_iff.1 h
      obtain ⟨behindColon, hcolon, h⟩ := bind_eq_ok_iff.1 h
      obtain ⟨⟨x, behind⟩, hx, h⟩ := bind_eq_ok_iff.1 h
      have hx' := himp (under_eq_ok_iff.1 hx)
      refine bind_eq_ok_iff.2 ⟨name, hname, bind_eq_ok_iff.2 ⟨behindColon, hcolon, ?_⟩⟩
      exact bind_eq_ok_iff.2 ⟨(x, behind), under_eq_ok_iff.2 hx', ih h⟩

/-- A reader that may go one step deeper reads the same. -/
theorem readValue_succ {bound depth : Nat} {input : Input} {r : Json × Input}
    (h : readValue bound depth input = .ok r) : readValue bound (depth + 1) input = .ok r := by
  induction depth generalizing input r with
  | zero =>
    rw [readValue] at h ⊢
    split at h
    · cases h
    · cases h
    · exact h
  | succ depth ih =>
    rw [readValue] at h ⊢
    split at h
    · obtain ⟨p, hxs, h⟩ := map_eq_ok_iff.1 h
      exact map_eq_ok_iff.2 ⟨p, readItems_of_imp ih hxs, h⟩
    · obtain ⟨p, hms, h⟩ := map_eq_ok_iff.1 h
      exact map_eq_ok_iff.2 ⟨p, readMembers_of_imp ih hms, h⟩
    · exact h

/-- **What is read does not depend on how much deeper the reader may go.** -/
theorem readValue_of_le {bound depth depth' : Nat} {input : Input} {r : Json × Input}
    (h : readValue bound depth input = .ok r) (hle : depth ≤ depth') :
    readValue bound depth' input = .ok r := by
  induction hle with
  | refl => exact h
  | step _ ih => exact readValue_succ ih

/-- **A value that is too deep is refused**: were its text read, it would be
read as the value, by a reader that may go deeper as well. -/
theorem readValue_of_depth_lt {j : Json} (hfits : j.Fits) (hordered : j.Ordered)
    {depth bound : Nat} (hdepth : depth < j.depth) (hbound : j.chars.length ≤ bound)
    {rest : Input} (hrest : EndsNumber rest) :
    ∃ f, readValue bound depth (j.chars.map .char ++ rest) = .error f := by
  cases hread : readValue bound depth (j.chars.map .char ++ rest) with
  | error f => exact ⟨f, rfl⟩
  | ok r =>
    have hdeeper := readValue_of_le hread (Nat.le_of_lt hdepth)
    rw [readValue_chars hfits hordered (Nat.le_refl _) hbound rest hrest] at hdeeper
    obtain rfl := Except.ok.inj hdeeper
    have hle := depth_le_of_readValue hread
    rw [depth_reread] at hle
    exact absurd hle (Nat.not_le.2 hdepth)

/-! ## Lists in lists -/

/-- So many lists around `null`. -/
def nested : Nat → Json
  | 0 => .null
  | n + 1 => .array [nested n]

@[simp] theorem depth_nested (n : Nat) : (nested n).depth = n := by
  induction n with
  | zero => rfl
  | succ n ih => simp [nested, depth, depthItems, ih]

theorem allIntegers_nested (n : Nat) : (nested n).AllIntegers := by
  induction n with
  | zero => trivial
  | succ n ih => exact ⟨ih, trivial⟩

theorem length_chars_nested (n : Nat) : (nested n).chars.length = 2 * n + 4 := by
  induction n with
  | zero => rfl
  | succ n ih =>
    simp only [nested, chars, itemsChars, List.length_append, List.length_cons, List.length_nil, ih]
    omega

theorem ordered_nested (n : Nat) : (nested n).Ordered := by
  induction n with
  | zero => trivial
  | succ n ih => exact ⟨ih, trivial⟩

end Json

end EventFeed
