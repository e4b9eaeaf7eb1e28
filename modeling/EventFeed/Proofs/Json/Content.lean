import EventFeed.Proofs.Json.Entries
import Mathlib.Data.List.Nodup
import Mathlib.Data.List.Perm.Basic

/-!
# EventFeed.Proofs.Json.Content

What a record is read as depends on the values of its fields alone
(`OnContent`).  It may be restated (`Restated`): the members in another order,
members of other names among them, the values by position instead of by name, a
default written down or left out.  And a record with a field given twice, a field
missing or an unsuitable value in a field is refused, whatever else it has.  All of
this holds of a record whose fields follow rules (`onContent_record?`).
-/

namespace EventFeed

namespace Json

open Written (named? pairs? given field)

/-! ## Content -/

/-- A field as those who write records know it: its name, which values suit it,
and the value that is as good as none, if the field may be left out. -/
structure FieldForm where
  name : String
  suits : Written → Bool
  absent : Option Written

/-- A member of the name of the field. -/
def FieldForm.NamedBy (f : FieldForm) (k : List Piece) : Prop := text? k = some f.name

instance (f : FieldForm) (k : List Piece) : Decidable (f.NamedBy k) :=
  inferInstanceAs (Decidable (_ = _))

/-- The same record, written in another way. -/
inductive Restated (forms : List FieldForm) : Written → Written → Prop
  | refl (w : Written) : Restated forms w w
  | symm {w w' : Written} : Restated forms w w' → Restated forms w' w
  | trans {w w' w'' : Written} : Restated forms w w' → Restated forms w' w'' → Restated forms w w''
  /-- The members may come in any order. -/
  | order {ms ms' : List (List Piece × Written)} (same : ms.Perm ms') :
    Restated forms (.object ms) (.object ms')
  /-- Members of other names, with any value, may stand among them. -/
  | others (before behind : List (List Piece × Written)) {k : List Piece} (x : Written)
      {name : String} (named : text? k = some name) (other : ∀ f ∈ forms, name ≠ f.name) :
    Restated forms (.object (before ++ (k, x) :: behind)) (.object (before ++ behind))
  /-- Values in the order of the fields need no names. -/
  | positions {ms : List (List Piece × Written)}
      (inOrder : ms.map (fun m => text? m.1) = (forms.take ms.length).map fun f => some f.name) :
    Restated forms (.object ms) (.array (ms.map Prod.snd))
  /-- To leave a field out is to give its default. -/
  | defaults {before behind : List (List Piece × Written)} {f : FieldForm} {k : List Piece}
      {x : Written} (mem : f ∈ forms) (absent : f.absent = some x) (named : f.NamedBy k)
      (nowhere : ∀ m ∈ before ++ behind, ¬f.NamedBy m.1) :
    Restated forms (.object (before ++ (k, x) :: behind)) (.object (before ++ behind))

/-- Only the content of a record decides what it is read as, and whether. -/
structure OnContent {α : Type} (forms : List FieldForm) (decode : Written → Option α) : Prop where
  restated {w w' : Written} (same : Restated forms w w') : decode w = decode w'
  /-- No field may be given twice. -/
  twice {before between behind : List (List Piece × Written)} {f : FieldForm} {k k' : List Piece}
    {x x' : Written} (mem : f ∈ forms) (named : f.NamedBy k) (named' : f.NamedBy k') :
    decode (.object (before ++ (k, x) :: (between ++ (k', x') :: behind))) = none
  /-- No field without a default may be missing. -/
  missing {ms : List (List Piece × Written)} {f : FieldForm} (mem : f ∈ forms)
    (required : f.absent = none) (nowhere : ∀ m ∈ ms, ¬f.NamedBy m.1) : decode (.object ms) = none
  /-- No field may have a value that does not suit it. -/
  unsuitable {ms : List (List Piece × Written)} {f : FieldForm} {k : List Piece} {x : Written}
    (mem : f ∈ forms) (member : (k, x) ∈ ms) (named : f.NamedBy k) (unsuited : f.suits x = false) :
    decode (.object ms) = none

/-- The rule of a field of this form. -/
structure Rule.Fits {σ : Type} (f : FieldForm) (r : Rule σ) : Prop where
  name_eq : f.name = r.name
  suits_eq (x : Written) : f.suits x = (r.value? x).isSome
  default_eq : f.absent.bind r.value? = r.default?

theorem Rule.fits_of {σ α : Type} (name : String) (filled : σ → Bool) (put : α → σ → σ)
    {value? : Written → Option α} {absent : Option Written} {default? : Option α}
    (h : absent.bind value? = default?) :
    (Rule.of name filled put value? default?).Fits
      ⟨name, fun w => (value? w).isSome, absent⟩ := by
  refine ⟨rfl, fun x => Option.isSome_map.symm, ?_⟩
  rw [← h]
  cases absent <;> rfl

/-! ## Named values -/

theorem exists_of_mem_forall₂ {α β : Type} {R : α → β → Prop} {xs : List α} {ys : List β}
    (h : List.Forall₂ R xs ys) {y : β} (hy : y ∈ ys) : ∃ x ∈ xs, R x y := by
  obtain ⟨i, hi, rfl⟩ := List.getElem_of_mem hy
  have hi' : i < xs.length := h.length_eq ▸ hi
  exact ⟨xs[i], List.getElem_mem hi', h.get hi' hi⟩

section

variable {k : List Piece} {x : Written} {name : String} {ms ms' : List (List Piece × Written)}

theorem named?_cons (h : text? k = some name) (x : Written) (ms : List (List Piece × Written)) :
    named? ((k, x) :: ms) = (named? ms).map ((name, x) :: ·) := by
  rw [named?, h]
  rfl

/-- Values are named as the members that they come from. -/
theorem named?_eq_some_iff {ps : List (String × Written)} :
    named? ms = some ps ↔ List.Forall₂ (fun m p => text? m.1 = some p.1 ∧ m.2 = p.2) ms ps := by
  induction ms generalizing ps with
  | nil => simp [named?, eq_comm]
  | cons m ms ih =>
    obtain ⟨k, x⟩ := m
    simp only [named?, Option.bind_eq_some_iff, Option.map_eq_some_iff, ih,
      List.forall₂_cons_left_iff]
    constructor
    · rintro ⟨name, hname, qs, hqs, rfl⟩
      exact ⟨(name, x), qs, ⟨hname, rfl⟩, hqs, rfl⟩
    · rintro ⟨⟨name, y⟩, qs, ⟨hname, rfl⟩, hqs, rfl⟩
      exact ⟨name, hname, qs, hqs, rfl⟩

/-- Members in another order give values in another order. -/
theorem named?_perm (h : ms.Perm ms') {ps : List (String × Written)} (hms : named? ms = some ps) :
    ∃ ps', named? ms' = some ps' ∧ ps.Perm ps' := by
  obtain ⟨ps', hms', hps⟩ := List.perm_comp_forall₂ h.symm (named?_eq_some_iff.1 hms)
  exact ⟨ps', named?_eq_some_iff.2 hms', hps.symm⟩

/-- A name that no member has is given nothing. -/
theorem given_eq_nil {ps : List (String × Written)} (hms : named? ms = some ps)
    (h : ∀ m ∈ ms, text? m.1 ≠ some name) : given name ps = [] := by
  refine List.filterMap_eq_nil_iff.2 fun p hp => if_neg ?_
  rintro rfl
  obtain ⟨m, hm, hk, -⟩ := exists_of_mem_forall₂ (named?_eq_some_iff.1 hms) hp
  exact h m hm hk

end

/-! ## Fields -/

/-- The order of the values that a field is given does not matter, because at most
one may be given. -/
theorem field_perm {α : Type} {value? : Written → Option α} {default? : Option α}
    {xs ys : List Written} (h : xs.Perm ys) :
    field value? default? xs = field value? default? ys := by
  match xs, ys, h with
  | [], ys, h => rw [List.nil_perm.1 h]
  | [x], ys, h => rw [List.singleton_perm.1 h]
  | x :: x' :: xs, [], h => cases h.length_eq
  | x :: x' :: xs, [y], h => cases h.length_eq
  | x :: x' :: xs, y :: y' :: ys, h => rfl

variable {σ : Type} {rules : List (Rule σ)}

/-- A record is made of what its fields are. -/
theorem setAll_congr {ps qs : List (String × Written)}
    (h : ∀ r ∈ rules, field r.value? r.default? (given r.name ps) =
      field r.value? r.default? (given r.name qs)) (s : σ) :
    setAll rules ps s = setAll rules qs s := by
  induction rules generalizing s with
  | nil => rfl
  | cons r rs ih =>
    obtain ⟨hr, hrs⟩ := List.forall_mem_cons.1 h
    simp only [setAll, hr, ih hrs]

/-- There is no record if a field is nothing. -/
theorem setAll_eq_none {r : Rule σ} (hr : r ∈ rules) {ps : List (String × Written)}
    (h : field r.value? r.default? (given r.name ps) = none) (s : σ) :
    setAll rules ps s = none := by
  induction rules generalizing s with
  | nil => cases hr
  | cons q rs ih =>
    rw [setAll]
    rcases List.mem_cons.1 hr with rfl | hr
    · rw [h]
      rfl
    · cases field q.value? q.default? (given q.name ps) with
      | none => rfl
      | some g => exact ih hr (g s)

/-! ## Records -/

theorem map_name_of_fits {forms : List FieldForm} (hfits : List.Forall₂ Rule.Fits forms rules) :
    forms.map (·.name) = rules.map (·.name) := by
  induction hfits with
  | nil => rfl
  | cons hfit _ ih => rw [List.map_cons, List.map_cons, hfit.name_eq, ih]

section

variable {empty : σ} {ms ms' : List (List Piece × Written)}

theorem record?_object (rules : List (Rule σ)) (empty : σ) (ms : List (List Piece × Written)) :
    record? rules empty (.object ms) = (named? ms).bind fun ps => setAll rules ps empty := rfl

theorem record?_perm (h : ms.Perm ms') :
    record? rules empty (.object ms) = record? rules empty (.object ms') := by
  rw [record?_object, record?_object]
  cases hms : named? ms with
  | none =>
    cases hms' : named? ms' with
    | none => rfl
    | some ps' =>
      obtain ⟨ps, hps, -⟩ := named?_perm h.symm hms'
      cases hms.symm.trans hps
  | some ps =>
    obtain ⟨ps', hms', hps⟩ := named?_perm h hms
    rw [hms']
    exact setAll_congr (fun r _ => field_perm (hps.filterMap _)) empty

/-- A member that makes no difference as the first one makes none. -/
theorem record?_insert {k : List Piece} {x : Written} {name : String} (hk : text? k = some name)
    (before behind : List (List Piece × Written))
    (h : ∀ ps, named? (before ++ behind) = some ps → ∀ r ∈ rules,
      field r.value? r.default? (given r.name ((name, x) :: ps)) =
        field r.value? r.default? (given r.name ps)) :
    record? rules empty (.object (before ++ (k, x) :: behind)) =
      record? rules empty (.object (before ++ behind)) := by
  rw [record?_perm List.perm_middle, record?_object, record?_object, named?_cons hk]
  cases hms : named? (before ++ behind) with
  | none => rfl
  | some ps => exact setAll_congr (h ps hms) empty

/-- A member of another name makes none. -/
theorem record?_other {k : List Piece} {name : String} (hk : text? k = some name)
    (hother : ∀ r ∈ rules, name ≠ r.name) (before behind : List (List Piece × Written))
    (x : Written) :
    record? rules empty (.object (before ++ (k, x) :: behind)) =
      record? rules empty (.object (before ++ behind)) :=
  record?_insert hk before behind fun ps _ r hr => by rw [given_cons_ne (hother r hr)]

/-- Neither does a member with a default that is not given otherwise. -/
theorem record?_default (hnames : (rules.map (·.name)).Nodup) {r : Rule σ} (hr : r ∈ rules)
    {k : List Piece} (hk : text? k = some r.name) {x : Written} (hx : r.value? x = r.default?)
    {before behind : List (List Piece × Written)}
    (hnowhere : ∀ m ∈ before ++ behind, text? m.1 ≠ some r.name) :
    record? rules empty (.object (before ++ (k, x) :: behind)) =
      record? rules empty (.object (before ++ behind)) := by
  refine record?_insert hk before behind fun ps hps q hq => ?_
  rcases eq_or_ne r.name q.name with heq | hne
  · obtain rfl : r = q := List.inj_on_of_nodup_map hnames hr hq heq
    rw [given_cons_self, given_eq_nil hps hnowhere]
    exact hx
  · rw [given_cons_ne hne]

/-- A record is refused if a field is nothing. -/
theorem record?_refused {r : Rule σ} (hr : r ∈ rules)
    (h : ∀ ps, named? ms = some ps → field r.value? r.default? (given r.name ps) = none) :
    record? rules empty (.object ms) = none := by
  rw [record?_object]
  cases hms : named? ms with
  | none => rfl
  | some ps => exact setAll_eq_none hr (h ps hms) empty

/-- It is nothing if it is given twice, -/
theorem record?_twice {r : Rule σ} (hr : r ∈ rules) {k k' : List Piece}
    (hk : text? k = some r.name) (hk' : text? k' = some r.name) (x x' : Written)
    (before between behind : List (List Piece × Written)) :
    record? rules empty (.object (before ++ (k, x) :: (between ++ (k', x') :: behind))) = none := by
  have hfirst : (before ++ (k, x) :: (between ++ (k', x') :: behind)).Perm
      ((k, x) :: (k', x') :: (before ++ (between ++ behind))) := by
    refine List.perm_middle.trans (.cons _ ?_)
    rw [← List.append_assoc, ← List.append_assoc]
    exact List.perm_middle
  rw [record?_perm hfirst]
  refine record?_refused hr fun ps hps => ?_
  rw [named?_cons hk, named?_cons hk', Option.map_map] at hps
  obtain ⟨qs, -, rfl⟩ := Option.map_eq_some_iff.1 hps
  simp only [Function.comp, given_cons_self, field]

/-- if it is missing and has no default, -/
theorem record?_missing {r : Rule σ} (hr : r ∈ rules) (hrequired : r.default? = none)
    (hnowhere : ∀ m ∈ ms, text? m.1 ≠ some r.name) : record? rules empty (.object ms) = none :=
  record?_refused hr fun ps hps => by rw [given_eq_nil hps hnowhere, field, hrequired]

/-- and if it has a value that does not suit it. -/
theorem record?_unsuitable {r : Rule σ} (hr : r ∈ rules) {k : List Piece}
    (hk : text? k = some r.name) {x : Written} (hx : r.value? x = none) (hmem : (k, x) ∈ ms) :
    record? rules empty (.object ms) = none := by
  obtain ⟨before, behind, rfl⟩ := List.append_of_mem hmem
  rw [record?_perm List.perm_middle]
  refine record?_refused hr fun ps hps => ?_
  rw [named?_cons hk] at hps
  obtain ⟨qs, -, rfl⟩ := Option.map_eq_some_iff.1 hps
  rw [given_cons_self]
  cases given r.name qs with
  | nil => exact hx
  | cons y more => rfl

/-- Values by name and by position are the same if the names are in order. -/
theorem named?_inOrder {names : List String} :
    ms.map (fun m => text? m.1) = (names.take ms.length).map some →
      named? ms = some (names.zip (ms.map Prod.snd)) ∧ ms.length ≤ names.length := by
  induction ms generalizing names with
  | nil => exact fun _ => ⟨by simp [named?], Nat.zero_le _⟩
  | cons m ms ih =>
    obtain ⟨k, x⟩ := m
    intro h
    cases names with
    | nil => simp at h
    | cons name names =>
      simp only [List.map_cons, List.length_cons, List.take_succ_cons, List.cons.injEq] at h
      obtain ⟨hms, hle⟩ := ih h.2
      refine ⟨?_, Nat.succ_le_succ hle⟩
      rw [named?_cons h.1, hms]
      rfl

theorem record?_inOrder
    (h : ms.map (fun m => text? m.1) = ((rules.map (·.name)).take ms.length).map some) :
    record? rules empty (.object ms) = record? rules empty (.array (ms.map Prod.snd)) := by
  obtain ⟨hms, hle⟩ := named?_inOrder h
  rw [record?_object, hms, record?, pairs?, List.length_map, if_pos hle]

end

section

variable {forms : List FieldForm}

theorem exists_rule (hfits : List.Forall₂ Rule.Fits forms rules) {f : FieldForm} (hf : f ∈ forms) :
    ∃ r ∈ rules, r.Fits f :=
  exists_of_mem_forall₂ (List.Forall₂.flip hfits) hf

theorem namedBy_iff {f : FieldForm} {r : Rule σ} (hfit : r.Fits f) {k : List Piece} :
    f.NamedBy k ↔ text? k = some r.name := by
  rw [FieldForm.NamedBy, hfit.name_eq]

/-- Records that are written in another way are the same. -/
theorem record?_restated (hfits : List.Forall₂ Rule.Fits forms rules)
    (hnames : (rules.map (·.name)).Nodup) (empty : σ) {w w' : Written} (h : Restated forms w w') :
    record? rules empty w = record? rules empty w' := by
  induction h with
  | refl => rfl
  | symm _ ih => exact ih.symm
  | trans _ _ ih ih' => exact ih.trans ih'
  | order hperm => exact record?_perm hperm
  | others before behind x hk hother =>
    refine record?_other hk (fun r hr => ?_) before behind x
    obtain ⟨f, hf, hfit⟩ := exists_of_mem_forall₂ hfits hr
    exact hfit.name_eq ▸ hother f hf
  | positions hms =>
    refine record?_inOrder ?_
    rw [hms, ← map_name_of_fits hfits, ← List.map_take, List.map_map]
    rfl
  | @defaults _ _ f k x hf habsent hk hnowhere =>
    obtain ⟨r, hr, hfit⟩ := exists_rule hfits hf
    have hx : r.value? x = r.default? := by rw [← hfit.default_eq, habsent]; rfl
    exact record?_default hnames hr ((namedBy_iff hfit).1 hk) hx
      fun m hm => mt (namedBy_iff hfit).2 (hnowhere m hm)

/-- **Records depend on their content only**, if every field has a rule that fits
its form, and different fields different names. -/
theorem onContent_record? {α : Type} (hfits : List.Forall₂ Rule.Fits forms rules)
    (hnames : (rules.map (·.name)).Nodup) (empty : σ) (finish : σ → Option α) :
    OnContent forms fun w => (record? rules empty w).bind finish where
  restated h := congrArg (·.bind finish) (record?_restated hfits hnames empty h)
  twice hf hk hk' := by
    obtain ⟨r, hr, hfit⟩ := exists_rule hfits hf
    exact congrArg (·.bind finish)
      (record?_twice hr ((namedBy_iff hfit).1 hk) ((namedBy_iff hfit).1 hk') _ _ _ _ _)
  missing hf hrequired hnowhere := by
    obtain ⟨r, hr, hfit⟩ := exists_rule hfits hf
    have hdefault : r.default? = none := by rw [← hfit.default_eq, hrequired]; rfl
    exact congrArg (·.bind finish) (record?_missing hr hdefault
      fun m hm => mt (namedBy_iff hfit).2 (hnowhere m hm))
  unsuitable := by
    intro ms f k x hf hmem hk hunsuited
    obtain ⟨r, hr, hfit⟩ := exists_rule hfits hf
    have hx : r.value? x = none := by simpa [hfit.suits_eq] using hunsuited
    exact congrArg (·.bind finish) (record?_unsuitable hr ((namedBy_iff hfit).1 hk) hx hmem)

end

end Json

end EventFeed
