import EventFeed.Json.Reader.Value

/-!
# EventFeed.Proofs.Json.Ordered

Values that are read are ordered: in all their objects the names increase.
Reading puts each member in its place (`Increasing.insert`), so the order in
which a text has them does not matter.
-/

namespace EventFeed

namespace Json

/-- Two steps succeed if the first one does, and the second one on what it
gives. -/
theorem bind_eq_ok_iff {ε α β : Type} {x : Except ε α} {f : α → Except ε β} {b : β} :
    (x >>= f) = .ok b ↔ ∃ a, x = .ok a ∧ f a = .ok b := by
  cases x with
  | error e => simp [bind, Except.bind]
  | ok a => simp [bind, Except.bind]

/-- A step whose result is changed succeeds if the step does. -/
theorem map_eq_ok_iff {ε α β : Type} {x : Except ε α} {f : α → β} {b : β} :
    x.map f = .ok b ↔ ∃ a, x = .ok a ∧ f a = b := by
  cases x with
  | error e => simp [Except.map]
  | ok a => simp [Except.map]

/-! ## Parts -/

/-- An array is ordered if its items are. -/
theorem orderedItems_iff (xs : List Json) : OrderedItems xs ↔ ∀ x ∈ xs, x.Ordered := by
  induction xs with
  | nil => simp [OrderedItems]
  | cons x xs ih => simp [OrderedItems, ih]

/-- The values of an object are ordered if each of them is. -/
theorem orderedMembers_iff (ms : List (String × Json)) :
    OrderedMembers ms ↔ ∀ m ∈ ms, m.2.Ordered := by
  induction ms with
  | nil => simp [OrderedMembers]
  | cons m ms ih =>
    obtain ⟨k, x⟩ := m
    simp [OrderedMembers, ih]

/-- Atoms have no parts to order. -/
theorem Atom.ordered (a : Atom) : a.toJson.Ordered := by
  cases a <;> simp [Atom.toJson, Ordered]

/-- Only the names count. -/
theorem increasing_iff (ms : List (String × Json)) :
    Increasing ms ↔ (ms.map Prod.fst).Pairwise (· < ·) :=
  List.pairwise_map.symm

/-! ## Insertion -/

/-- What is in an object after a member was put in. -/
theorem mem_insert {name : String} {value : Json} {ms : List (String × Json)} {m : String × Json}
    (h : m ∈ insert name value ms) : m = (name, value) ∨ m ∈ ms := by
  induction ms with
  | nil => simpa [insert] using h
  | cons first rest ih =>
    obtain ⟨k, v⟩ := first
    rw [insert] at h
    split at h
    · simpa using h
    split at h
    · rcases List.mem_cons.1 h with h | h
      · exact .inl h
      · exact .inr (List.mem_cons_of_mem _ h)
    · rcases List.mem_cons.1 h with h | h
      · exact .inr (h ▸ List.mem_cons_self)
      · exact (ih h).imp_right (List.mem_cons_of_mem _)

/-- Names that increase still do after a member was put in. -/
theorem Increasing.insert {ms : List (String × Json)} (h : Increasing ms) (name : String)
    (value : Json) : Increasing (Json.insert name value ms) := by
  induction ms with
  | nil => exact List.pairwise_singleton _ _
  | cons first rest ih =>
    obtain ⟨k, v⟩ := first
    obtain ⟨hfirst, hrest⟩ := List.pairwise_cons.1 h
    rw [Json.insert]
    split
    · next hlt =>
      refine List.pairwise_cons.2 ⟨fun m hm => ?_, h⟩
      rcases List.mem_cons.1 hm with rfl | hm
      · exact hlt
      · exact String.lt_trans hlt (hfirst m hm)
    split
    · next heq => exact heq ▸ List.pairwise_cons.2 ⟨hfirst, hrest⟩
    · next hlt hne =>
      refine List.pairwise_cons.2 ⟨fun m hm => ?_, ih hrest⟩
      rcases mem_insert hm with rfl | hm
      · exact String.not_le.1 fun hle => hne (String.le_antisymm hle (String.not_lt.1 hlt))
      · exact hfirst m hm

/-- A member whose name comes after all others is put at the end. -/
theorem insert_of_last {name : String} {ms : List (String × Json)} (h : ∀ m ∈ ms, m.1 < name)
    (value : Json) : insert name value ms = ms ++ [(name, value)] := by
  induction ms with
  | nil => rfl
  | cons first rest ih =>
    obtain ⟨k, v⟩ := first
    have hk : k < name := h _ List.mem_cons_self
    have hne : name ≠ k := fun he => String.lt_irrefl _ (he ▸ hk)
    rw [insert, if_neg (String.lt_asymm hk), if_neg hne,
      ih fun m hm => h m (List.mem_cons_of_mem _ hm)]
    rfl

/-! ## Reading -/

/-- What the reader of items promises of each holds of all that are read. -/
theorem forall_of_readItems {P : Json → Prop} {item : Input → Read Json}
    (hitem : ∀ {input x rest}, item input = .ok (x, rest) → P x) {bound index : Nat}
    {done xs : List Json} {input rest : Input} (hdone : ∀ x ∈ done, P x)
    (h : readItems item bound index done input = .ok (xs, rest)) : ∀ x ∈ xs, P x := by
  induction bound generalizing index done input with
  | zero => cases h
  | succ bound ih =>
    rw [readItems] at h
    obtain ⟨next, -, h⟩ := bind_eq_ok_iff.1 h
    cases next with
    | none =>
      obtain ⟨_, -, h⟩ := bind_eq_ok_iff.1 h
      cases h
      simpa using hdone
    | some more =>
      obtain ⟨⟨x, behind⟩, hx, h⟩ := bind_eq_ok_iff.1 h
      refine ih (fun y hy => ?_) h
      rcases List.mem_cons.1 hy with rfl | hy
      · exact hitem (under_eq_ok_iff.1 hx)
      · exact hdone y hy

/-- The members that are read increase, and what the reader of values
promises holds of the value of each. -/
theorem increasing_of_readMembers {P : Json → Prop} {value : Input → Read Json}
    (hvalue : ∀ {input x rest}, value input = .ok (x, rest) → P x) {bound : Nat}
    {first : Bool} {done ms : List (String × Json)} {input rest : Input} (hdone : Increasing done)
    (hvalues : ∀ m ∈ done, P m.2)
    (h : readMembers value bound first done input = .ok (ms, rest)) :
    Increasing ms ∧ ∀ m ∈ ms, P m.2 := by
  induction bound generalizing first done input with
  | zero => cases h
  | succ bound ih =>
    rw [readMembers] at h
    obtain ⟨next, -, h⟩ := bind_eq_ok_iff.1 h
    cases next with
    | none =>
      obtain ⟨_, -, h⟩ := bind_eq_ok_iff.1 h
      cases h
      exact ⟨hdone, hvalues⟩
    | some more =>
      obtain ⟨⟨name, behindName⟩, -, h⟩ := bind_eq_ok_iff.1 h
      obtain ⟨_, -, h⟩ := bind_eq_ok_iff.1 h
      obtain ⟨⟨x, behind⟩, hx, h⟩ := bind_eq_ok_iff.1 h
      refine ih (hdone.insert name x) (fun m hm => ?_) h
      rcases mem_insert hm with rfl | hm
      · exact hvalue (under_eq_ok_iff.1 hx)
      · exact hvalues m hm

/-- What holds of the atoms that are read, and of the containers whose parts it holds
of, holds of every value that is read; it may depend on how deep the reader may go. -/
theorem induction_of_readValue {P : Nat → Json → Prop} {bound : Nat}
    (atom : ∀ depth {input rest a}, readAtom input = .ok (a, rest) → P depth a.toJson)
    (array : ∀ depth {xs}, (∀ x ∈ xs, P depth x) → P (depth + 1) (.array xs))
    (object : ∀ depth {ms}, Increasing ms → (∀ m ∈ ms, P depth m.2) → P (depth + 1) (.object ms))
    {depth : Nat} {input rest : Input} {j : Json}
    (h : readValue bound depth input = .ok (j, rest)) : P depth j := by
  induction depth generalizing input j rest with
  | zero =>
    rw [readValue] at h
    split at h
    · cases h
    · cases h
    · obtain ⟨⟨a, _⟩, ha, h⟩ := map_eq_ok_iff.1 h
      cases h
      exact atom 0 ha
  | succ depth ih =>
    rw [readValue] at h
    split at h
    · obtain ⟨⟨xs, _⟩, hxs, h⟩ := map_eq_ok_iff.1 h
      cases h
      exact array depth (forall_of_readItems ih (List.forall_mem_nil _) hxs)
    · obtain ⟨⟨ms, _⟩, hms, h⟩ := map_eq_ok_iff.1 h
      cases h
      obtain ⟨hincreasing, hall⟩ :=
        increasing_of_readMembers ih List.Pairwise.nil (List.forall_mem_nil _) hms
      exact object depth hincreasing hall
    · obtain ⟨⟨a, _⟩, ha, h⟩ := map_eq_ok_iff.1 h
      cases h
      exact atom (depth + 1) ha

/-- **Every value that is read is ordered.** -/
theorem ordered_of_readValue {bound depth : Nat} {input rest : Input} {j : Json}
    (h : readValue bound depth input = .ok (j, rest)) : j.Ordered := by
  refine induction_of_readValue (P := fun _ j => j.Ordered) (fun _ _ _ a _ => a.ordered)
    (fun _ xs hxs => ?_) (fun _ ms hms hall => ?_) h
  · rw [Ordered, orderedItems_iff]
    exact hxs
  · rw [Ordered, orderedMembers_iff]
    exact ⟨hms, hall⟩

end Json

end EventFeed
