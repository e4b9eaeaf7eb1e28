import EventFeed.Json.Reader.Record
import EventFeed.Proofs.Json.Spelling

/-!
# EventFeed.Proofs.Json.Rules

What a record makes of the values that a tree gives to its fields.  Each field
has a rule (`Rule`): which trees suit it, what it sets then, and whether it has a
default.  Values are put into a record in the order in which a text has them; as
long as the rules have to do with different fields, this is as good as setting
the fields in their own order (`putAll_bind_setOn`).
-/

namespace EventFeed

namespace Json

/-! ## What a tree gives to fields -/

namespace Written

/-- The names of members, and their values. -/
def named? : List (List Piece × Written) → Option (List (String × Written))
  | [] => some []
  | (k, x) :: ms => (text? k).bind fun name => (named? ms).map ((name, x) :: ·)

/-- The names and values that a tree gives to fields: those of its members if it
is an object, and the values of the first fields in order if it is an array. -/
def pairs? (names : List String) : Written → Option (List (String × Written))
  | .object ms => named? ms
  | .array xs => if xs.length ≤ names.length then some (names.zip xs) else none
  | _ => none

/-- The values that are given to the field of a name. -/
def given (name : String) (ps : List (String × Written)) : List Written :=
  ps.filterMap fun p => if p.1 = name then some p.2 else none

/-- What a field is, given these values: its default if there is none, and what
one stands for. -/
def field {α : Type} (value? : Written → Option α) (default? : Option α) :
    List Written → Option α
  | [] => default?
  | [x] => value? x
  | _ => none

end Written

open Written (pairs? given field)

/-! ## Rules -/

/-- What a field does with a tree: it sets something, if the tree has a value that
suits it, or its default, if it has one. -/
structure Rule (σ : Type) where
  name : String
  filled : σ → Bool
  value? : Written → Option (σ → σ)
  default? : Option (σ → σ)

namespace Rule

variable {σ : Type}

/-- The rule of a field that is set by `put`. -/
def of {α : Type} (name : String) (filled : σ → Bool) (put : α → σ → σ)
    (value? : Written → Option α) (default? : Option α) : Rule σ :=
  ⟨name, filled, fun w => (value? w).map put, default?.map put⟩

/-- What the rule can do to a record. -/
def Sets (r : Rule σ) (g : σ → σ) : Prop := (∃ x, r.value? x = some g) ∨ r.default? = some g

/-- A rule fills its field. -/
def Fills (r : Rule σ) : Prop := ∀ g, r.Sets g → ∀ s, r.filled (g s) = true

/-- Two rules have to do with different fields. -/
structure Apart (r q : Rule σ) : Prop where
  names_ne : r.name ≠ q.name
  left : ∀ g, r.Sets g → ∀ s, q.filled (g s) = q.filled s
  right : ∀ h, q.Sets h → ∀ s, r.filled (h s) = r.filled s
  comm : ∀ g h, r.Sets g → q.Sets h → ∀ s, g (h s) = h (g s)

/-- What a rule can do is to put something. -/
theorem sets_of {α : Type} {name : String} {filled : σ → Bool} {put : α → σ → σ}
    {value? : Written → Option α} {default? : Option α} {g : σ → σ}
    (h : (of name filled put value? default?).Sets g) : ∃ v, g = put v := by
  rcases h with ⟨x, h⟩ | h
  · obtain ⟨v, -, rfl⟩ := Option.map_eq_some_iff.1 h
    exact ⟨v, rfl⟩
  · obtain ⟨v, -, rfl⟩ := Option.map_eq_some_iff.1 h
    exact ⟨v, rfl⟩

theorem fills_of {α : Type} {name : String} {filled : σ → Bool} {put : α → σ → σ}
    (hput : ∀ v s, filled (put v s) = true) (value? : Written → Option α) (default? : Option α) :
    (of name filled put value? default?).Fills := by
  intro g hg s
  obtain ⟨v, rfl⟩ := sets_of hg
  exact hput v s

theorem apart_of {α β : Type} {name name' : String} {filled filled' : σ → Bool}
    {put : α → σ → σ} {put' : β → σ → σ} (hname : name ≠ name')
    (hleft : ∀ v s, filled' (put v s) = filled' s) (hright : ∀ v s, filled (put' v s) = filled s)
    (hcomm : ∀ v v' s, put v (put' v' s) = put' v' (put v s)) (value? : Written → Option α)
    (value?' : Written → Option β) (default? : Option α) (default?' : Option β) :
    (of name filled put value? default?).Apart (of name' filled' put' value?' default?') := by
  refine ⟨hname, fun g hg s => ?_, fun g hg s => ?_, fun g h hg hh s => ?_⟩
  · obtain ⟨v, rfl⟩ := sets_of hg
    exact hleft v s
  · obtain ⟨v, rfl⟩ := sets_of hg
    exact hright v s
  · obtain ⟨v, rfl⟩ := sets_of hg
    obtain ⟨v', rfl⟩ := sets_of hh
    exact hcomm v v' s

end Rule

variable {σ : Type} {rules : List (Rule σ)}

/-! ## Filling a record -/

/-- Put one value into a record, as an object gives it. -/
def putOne (rules : List (Rule σ)) (p : String × Written) (s : σ) : Option σ :=
  match rules.find? (·.name == p.1) with
  | none => some s
  | some r => if r.filled s then none else (r.value? p.2).map (· s)

/-- Put values into a record, one after the other. -/
def putAll (rules : List (Rule σ)) : List (String × Written) → σ → Option σ
  | [], s => some s
  | p :: ps, s => (putOne rules p s).bind (putAll rules ps)

/-- Set what was given to the fields, in the order of the fields; those that are
set already are given nothing more. -/
def setOn : List (Rule σ) → List (String × Written) → σ → Option σ
  | [], _, s => some s
  | r :: rs, ps, s =>
    match given r.name ps with
    | [] => if r.filled s then setOn rs ps s else r.default?.bind fun g => setOn rs ps (g s)
    | [x] => if r.filled s then none else (r.value? x).bind fun g => setOn rs ps (g s)
    | _ => none

/-- Set all fields, in their order. -/
def setAll : List (Rule σ) → List (String × Written) → σ → Option σ
  | [], _, s => some s
  | r :: rs, ps, s => (field r.value? r.default? (given r.name ps)).bind fun g =>
    setAll rs ps (g s)

theorem given_cons_self (name : String) (x : Written) (ps : List (String × Written)) :
    given name ((name, x) :: ps) = x :: given name ps := by
  simp [given]

theorem given_cons_ne {name other : String} (h : other ≠ name) (x : Written)
    (ps : List (String × Written)) : given name ((other, x) :: ps) = given name ps := by
  simp [given, h]

/-- Only what is given to the fields counts. -/
theorem setOn_congr {ps qs : List (String × Written)}
    (h : ∀ r ∈ rules, given r.name ps = given r.name qs) (s : σ) :
    setOn rules ps s = setOn rules qs s := by
  induction rules generalizing s with
  | nil => rfl
  | cons r rs ih =>
    obtain ⟨hr, hrs⟩ := List.forall_mem_cons.1 h
    simp only [setOn, hr, ih hrs]

/-- **One value more** is as good as the value set first. -/
theorem setOn_cons {r : Rule σ} (hr : r ∈ rules) (hfills : r.Fills)
    (hapart : rules.Pairwise Rule.Apart) (x : Written) (ps : List (String × Written)) (s : σ) :
    setOn rules ((r.name, x) :: ps) s =
      if r.filled s then none else (r.value? x).bind fun g => setOn rules ps (g s) := by
  -- on the rules, as far as the one that the value is for
  induction rules generalizing s with
  | nil => cases hr
  | cons q rs ih =>
    obtain ⟨hq, hrs⟩ := List.pairwise_cons.1 hapart
    rcases List.mem_cons.1 hr with rfl | hmem
    · have hrest (s : σ) : setOn rs ((r.name, x) :: ps) s = setOn rs ps s :=
        setOn_congr (fun q hq' => given_cons_ne (hq q hq').names_ne x ps) s
      simp only [setOn, given_cons_self, hrest]
      cases hv : r.value? x with
      | none => rcases given r.name ps with _ | ⟨y, more⟩ <;> simp [hv]
      | some g =>
        have hfilled : r.filled (g s) = true := hfills g (.inl ⟨x, hv⟩) s
        rcases given r.name ps with _ | ⟨y, _ | ⟨z, more⟩⟩ <;> simp [hv, hfilled]
    · have hapart := hq r hmem
      have hrest := ih hmem hrs
      simp only [setOn, given_cons_ne hapart.names_ne.symm, hrest]
      cases hv : r.value? x with
      | none => rcases given q.name ps with _ | ⟨y, _ | ⟨z, more⟩⟩ <;> simp
      | some g =>
        have hg : r.Sets g := .inl ⟨x, hv⟩
        have hsame := hapart.right g hg s
        -- it is as good to set this field first
        have hswap (h : σ → σ) (hh : q.Sets h) : r.filled (h s) = r.filled s ∧ h (g s) = g (h s) :=
          ⟨hapart.left h hh s, hapart.comm h g hh hg s⟩
        rcases given q.name ps with _ | ⟨y, _ | ⟨z, more⟩⟩
        · cases hd : q.default? with
          | none => by_cases hf : q.filled s = true <;> simp [hsame, hf]
          | some h =>
            obtain ⟨hr, hcomm⟩ := hswap h (.inr hd)
            by_cases hf : q.filled s = true <;> simp [hsame, hf, hr, hcomm]
        · cases hy : q.value? y with
          | none => by_cases hf : q.filled s = true <;> simp [hf, hy]
          | some h =>
            obtain ⟨hr, hcomm⟩ := hswap h (.inl ⟨y, hy⟩)
            by_cases hf : q.filled s = true <;> simp [hsame, hf, hy, hr, hcomm]
        · simp

/-- **The order of values does not matter**: putting them into a record one after
the other, and its defaults after them, is as good as setting its fields in their
order. -/
theorem putAll_bind_setOn (hfills : ∀ r ∈ rules, r.Fills) (hapart : rules.Pairwise Rule.Apart)
    (ps : List (String × Written)) (s : σ) :
    (putAll rules ps s).bind (setOn rules []) = setOn rules ps s := by
  induction ps generalizing s with
  | nil => rfl
  | cons p ps ih =>
    obtain ⟨name, x⟩ := p
    rw [putAll, putOne]
    cases hfind : rules.find? (·.name == name) with
    | none =>
      have hother (r : Rule σ) (hr : r ∈ rules) :
          given r.name ((name, x) :: ps) = given r.name ps := by
        have hne := List.find?_eq_none.1 hfind r hr
        exact given_cons_ne (fun he => hne (by simp [he])) x ps
      rw [setOn_congr hother]
      exact ih s
    | some r =>
      have hr := List.mem_of_find?_eq_some hfind
      obtain rfl : r.name = name := by simpa using List.find?_some hfind
      rw [setOn_cons hr (hfills r hr) hapart]
      dsimp only
      by_cases hf : r.filled s = true
      · rw [if_pos hf, if_pos hf]
        rfl
      · rw [if_neg hf, if_neg hf]
        cases r.value? x with
        | none => rfl
        | some g => exact ih (g s)

/-- Setting a field that is set by `put`. -/
theorem setAll_of {α : Type} (name : String) (filled : σ → Bool) (put : α → σ → σ)
    (value? : Written → Option α) (default? : Option α) (ps : List (String × Written)) (s : σ) :
    setAll (.of name filled put value? default? :: rules) ps s =
      (field value? default? (given name ps)).bind fun v => setAll rules ps (put v s) := by
  have hfield (xs : List Written) : field (fun w => (value? w).map put) (default?.map put) xs =
      (field value? default? xs).map put := by
    rcases xs with _ | ⟨x, _ | ⟨y, more⟩⟩ <;> rfl
  rw [setAll, Rule.of, hfield, Option.bind_map]
  rfl

/-- In an empty record no field is set yet. -/
theorem setOn_eq_setAll (hapart : rules.Pairwise Rule.Apart) (ps : List (String × Written)) {s : σ}
    (hempty : ∀ r ∈ rules, r.filled s = false) : setOn rules ps s = setAll rules ps s := by
  induction rules generalizing s with
  | nil => rfl
  | cons r rs ih =>
    obtain ⟨hr, hrs⟩ := List.pairwise_cons.1 hapart
    obtain ⟨hunset, hempty⟩ := List.forall_mem_cons.1 hempty
    have hrest (g : σ → σ) (hg : r.Sets g) : setOn rs ps (g s) = setAll rs ps (g s) :=
      ih hrs fun q hq => ((hr q hq).left g hg s).trans (hempty q hq)
    simp only [setOn, setAll, hunset]
    rcases given r.name ps with _ | ⟨x, _ | ⟨y, more⟩⟩
    · cases hd : r.default? with
      | none => simp [field]
      | some g => simp [field, hrest g (.inr hd)]
    · cases hv : r.value? x with
      | none => simp [field, hv]
      | some g => simp [field, hv, hrest g (.inl ⟨x, hv⟩)]
    · simp [field]

/-- Values that are given to no field do not count. -/
theorem setAll_cons_ne {name : String} (h : ∀ r ∈ rules, name ≠ r.name) (x : Written)
    (ps : List (String × Written)) (s : σ) :
    setAll rules ((name, x) :: ps) s = setAll rules ps s := by
  induction rules generalizing s with
  | nil => rfl
  | cons r rs ih =>
    obtain ⟨hr, hrs⟩ := List.forall_mem_cons.1 h
    simp only [setAll, given_cons_ne hr, ih hrs]

end Json

end EventFeed
