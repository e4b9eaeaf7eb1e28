import EventFeed.Proofs.Json.Numbers

/-!
# EventFeed.Proofs.Json.Reread

Values whose numbers are printed and read again.  Every number of a value that was read
fits 64 bits (`fits_of_readValue`), and only numbers change when the value is printed
and read again (`reread`): its depth stays the same, and integers do, too
(`reread_of_allIntegers`).
-/

namespace EventFeed

namespace Json

mutual

/-- Every number in the value fits. -/
def Fits : Json → Prop
  | .number n => n.Fits
  | .array items => FitsItems items
  | .object members => FitsMembers members
  | _ => True

/-- Every number in the items fits. -/
def FitsItems : List Json → Prop
  | [] => True
  | x :: xs => x.Fits ∧ FitsItems xs

/-- Every number in the members fits. -/
def FitsMembers : List (String × Json) → Prop
  | [] => True
  | (_, x) :: xs => x.Fits ∧ FitsMembers xs

end

mutual

/-- The value with every number read again. -/
def reread : Json → Json
  | .number n => .number n.reread
  | .array items => .array (rereadItems items)
  | .object members => .object (rereadMembers members)
  | j => j

/-- The items with every number read again. -/
def rereadItems : List Json → List Json
  | [] => []
  | x :: xs => x.reread :: rereadItems xs

/-- The members with every number read again. -/
def rereadMembers : List (String × Json) → List (String × Json)
  | [] => []
  | (name, x) :: xs => (name, x.reread) :: rereadMembers xs

end

/-! ## Parts -/

theorem fitsItems_iff (xs : List Json) : FitsItems xs ↔ ∀ x ∈ xs, x.Fits := by
  induction xs with
  | nil => simp [FitsItems]
  | cons x xs ih => simp [FitsItems, ih]

theorem fitsMembers_iff (ms : List (String × Json)) : FitsMembers ms ↔ ∀ m ∈ ms, m.2.Fits := by
  induction ms with
  | nil => simp [FitsMembers]
  | cons m ms ih =>
    obtain ⟨k, x⟩ := m
    simp [FitsMembers, ih]

/-! ## What does not change -/

mutual

/-- Reading again does not change how deep a value is. -/
@[simp] theorem depth_reread : (j : Json) → j.reread.depth = j.depth
  | .null | .bool _ | .number _ | .string _ => rfl
  | .array xs => congrArg (· + 1) (depthItems_reread xs)
  | .object ms => congrArg (· + 1) (depthMembers_reread ms)

theorem depthItems_reread : (xs : List Json) → depthItems (rereadItems xs) = depthItems xs
  | [] => rfl
  | x :: xs => congrArg₂ max (depth_reread x) (depthItems_reread xs)

theorem depthMembers_reread :
    (ms : List (String × Json)) → depthMembers (rereadMembers ms) = depthMembers ms
  | [] => rfl
  | (_, x) :: ms => congrArg₂ max (depth_reread x) (depthMembers_reread ms)

end

mutual

/-- **A value with integers only is read again as itself.** -/
theorem reread_of_allIntegers : {j : Json} → j.AllIntegers → j.reread = j
  | .null, _ | .bool _, _ | .string _, _ => rfl
  | .number (.integer _), h => congrArg Json.number (Number.reread_integer h)
  | .number (.float _), h => h.elim
  | .array _, h => congrArg Json.array (rereadItems_of_allIntegers h)
  | .object _, h => congrArg Json.object (rereadMembers_of_allIntegers h)

theorem rereadItems_of_allIntegers : {xs : List Json} → AllIntegersItems xs → rereadItems xs = xs
  | [], _ => rfl
  | _ :: _, h => congrArg₂ List.cons (reread_of_allIntegers h.1) (rereadItems_of_allIntegers h.2)

theorem rereadMembers_of_allIntegers :
    {ms : List (String × Json)} → AllIntegersMembers ms → rereadMembers ms = ms
  | [], _ => rfl
  | (name, _) :: _, h =>
    congrArg₂ List.cons (congrArg (Prod.mk name) (reread_of_allIntegers h.1))
      (rereadMembers_of_allIntegers h.2)

end

mutual

/-- Integers of 64 bits fit. -/
theorem fits_of_allIntegers : {j : Json} → j.AllIntegers → j.Fits
  | .null, _ | .bool _, _ | .string _, _ => trivial
  | .number (.integer _), h => h
  | .number (.float _), h => h.elim
  | .array _, h => fitsItems_of_allIntegers h
  | .object _, h => fitsMembers_of_allIntegers h

theorem fitsItems_of_allIntegers : {xs : List Json} → AllIntegersItems xs → FitsItems xs
  | [], _ => trivial
  | _ :: _, h => ⟨fits_of_allIntegers h.1, fitsItems_of_allIntegers h.2⟩

theorem fitsMembers_of_allIntegers :
    {ms : List (String × Json)} → AllIntegersMembers ms → FitsMembers ms
  | [], _ => trivial
  | (_, _) :: _, h => ⟨fits_of_allIntegers h.1, fitsMembers_of_allIntegers h.2⟩

end

/-! ## What is read -/

theorem fits_atom {input rest : Input} {a : Atom} (h : readAtom input = .ok (a, rest)) :
    a.toJson.Fits := by
  cases a with
  | number n => exact fits_of_readAtom h
  | null => trivial
  | bool b => trivial
  | string s => trivial

/-- **Every number in a value that was read fits.** -/
theorem fits_of_readValue {bound depth : ℕ} {input rest : Input} {j : Json}
    (h : readValue bound depth input = .ok (j, rest)) : j.Fits := by
  exact induction_of_readValue (P := fun _ j => j.Fits) (fun _ _ _ _ ha => fits_atom ha)
    (fun _ xs hxs => (fitsItems_iff xs).2 hxs) (fun _ ms _ hall => (fitsMembers_iff ms).2 hall) h

end Json

end EventFeed
