import EventFeed.Proofs.Json.Record
import EventFeed.Proofs.Json.Rules
import EventFeed.Proofs.Json.Skipping
import Mathlib.Data.List.Forall2

/-!
# EventFeed.Proofs.Json.Entries

Records are read off trees.  If every field follows its rule wherever a tree
stands (`Rule.Governs`), the reader of a record gives what the rules make of the
values that the tree gives to the fields (`gives_read`): those of the members of
an object, whatever others stand between them, or the items of a list.
-/

namespace EventFeed

namespace Json

open Written (token quote named? pairs? given field)

variable {σ : Type} {rules : List (Rule σ)}

/-! ## Reading a record -/

/-- The field follows the rule, wherever a tree stands. -/
structure Rule.Governs (r : Rule σ) (bound depth : Nat) (f : Field σ) : Prop where
  name_eq : f.name = r.name
  filled_eq : f.filled = r.filled
  default_eq (s : σ) : f.default? s = r.default?.map (· s)
  gives (s : σ) {w : Written} (hbound : w.tokens.length ≤ bound) :
    GivesOn (fun input => f.read bound depth input s) ((r.value? w).map (· s)) w

variable {r : Record σ} {bound depth : Nat}

/-- A field that is read by a reader of its own, and set by `put`. -/
theorem Rule.governs_of {α : Type} {name : String} {filled : σ → Bool} {put : α → σ → σ}
    {value? : Written → Option α} {default? : Option α} {f : Field σ}
    {read : Input → Except Fault (α × Input)} (hname : f.name = name)
    (hfilled : f.filled = filled) (hdefault : ∀ s, f.default? s = default?.map (put · s))
    (hread : ∀ input s, f.read bound depth input s = read input >>= fun p => .ok (put p.1 s, p.2))
    (hgives : ∀ {w : Written}, w.tokens.length ≤ bound → GivesOn read (value? w) w) :
    (Rule.of name filled put value? default?).Governs bound depth f := by
  refine ⟨hname, hfilled, fun s => ?_, fun s w hbound more input h hends => ?_⟩
  · rw [hdefault, Rule.of, Option.map_map]
    rfl
  · have hvalue : ((Rule.of name filled put value? default?).value? w).map (· s) =
        (value? w).bind fun v => some (put v s) := by
      rw [Rule.of, Option.map_map]
      cases value? w <;> rfl
    rw [hvalue]
    dsimp only
    rw [hread]
    exact (hgives hbound more input h hends).bind fun _ _ hrest => .read hrest

/-- Every field of the record follows its rule. -/
def Governed (rules : List (Rule σ)) (r : Record σ) (bound depth : Nat) : Prop :=
  List.Forall₂ (fun q f => Rule.Governs q bound depth f) rules r.fields

theorem toOption_complete {fields : List (Field σ)}
    (h : List.Forall₂ (fun q f => Rule.Governs q bound depth f) rules fields) (s : σ) :
    (Record.complete fields s).toOption = setOn rules [] s := by
  induction h generalizing s with
  | nil => rfl
  | @cons q f rs fs hf _ ih =>
    rw [Record.complete, setOn, hf.filled_eq, hf.default_eq]
    simp only [given, List.filterMap_nil]
    by_cases hfilled : q.filled s = true
    · rw [if_pos hfilled, if_pos hfilled, ih]
    · rw [if_neg hfilled, if_neg hfilled]
      cases q.default? with
      | none => rfl
      | some g => exact ih (g s)

/-- The field of a name follows the rule of that name. -/
theorem find?_governed {fields : List (Field σ)}
    (h : List.Forall₂ (fun q f => Rule.Governs q bound depth f) rules fields) (name : String) :
    (rules.find? (·.name == name) = none ∧ fields.find? (·.name == name) = none) ∨
      ∃ q f, rules.find? (·.name == name) = some q ∧ fields.find? (·.name == name) = some f ∧
        q.Governs bound depth f := by
  induction h with
  | nil => exact .inl ⟨rfl, rfl⟩
  | @cons q f rs fs hf _ ih =>
    rw [List.find?_cons, List.find?_cons, hf.name_eq]
    cases q.name == name with
    | true => exact .inr ⟨q, f, rfl, rfl, hf⟩
    | false => exact ih

/-- A member is read behind its name. -/
theorem gives_readField (h : Governed rules r bound depth) (name : String) (s : σ) {w : Written}
    (hbound : w.tokens.length ≤ bound) {more : List Input} (hends : Ends more) {input : Input}
    (hinput : Spaced (token [':'] :: (w.tokens ++ more)) input) :
    Gives more (putOne rules (name, w) s) (r.readField bound depth name s input) := by
  obtain ⟨behind, hcolon, hbehind⟩ := hinput.readColon
  rw [putOne, Record.readField]
  rcases find?_governed h name with ⟨hnone, hnone'⟩ | ⟨q, f, hq, hf, hgoverns⟩
  · obtain ⟨rest, hskip, hrest⟩ := skipValue_spaced hbound hbehind hends
    rw [hnone, hnone']
    simp only [hcolon, bind, Except.bind, hskip, under_ok, pure, Except.pure]
    exact .read hrest
  · rw [hq, hf]
    dsimp only
    rw [hgoverns.filled_eq]
    by_cases hfilled : q.filled s = true
    · rw [if_pos hfilled, if_pos hfilled]
      exact .refused
    · rw [if_neg hfilled, if_neg hfilled]
      simp only [hcolon, bind, Except.bind]
      exact (hgoverns.gives s hbound more behind hbehind hends).under (.member name)

/-- The record that members make. -/
def recordOf? (rules : List (Rule σ)) (ms : List (List Piece × Written)) (s : σ) : Option σ :=
  (named? ms).bind fun ps => (putAll rules ps s).bind (setOn rules [])

theorem recordOf?_cons (k : List Piece) (w : Written) (ms : List (List Piece × Written)) (s : σ) :
    recordOf? rules ((k, w) :: ms) s =
      (text? k).bind fun name => (putOne rules (name, w) s).bind fun s => recordOf? rules ms s := by
  rw [recordOf?, named?]
  cases text? k with
  | none => rfl
  | some name =>
    unfold recordOf?
    cases hms : named? ms with
    | none => cases putOne rules (name, w) s <;> simp
    | some ps => cases hone : putOne rules (name, w) s <;> simp [putAll, hone]

/-- One member is read, and then the others. -/
theorem gives_readFields_step (h : Governed rules r bound depth) {w : Written}
    (hbound : w.tokens.length ≤ bound) {fuel : Nat} {first : Bool} {s : σ} {k : List Piece}
    {ms : List (List Piece × Written)} {more : List Input} {input next : Input}
    (hnext : nextMember first input = .ok (some (closed k ++ next)))
    (hspaced : Spaced (token [':'] :: (w.tokens ++ (Written.moreMembers ms ++ more))) next)
    (hrest : ∀ s rest, Spaced (Written.moreMembers ms ++ more) rest →
      Gives more (recordOf? rules ms s) (r.readFields bound depth fuel false s rest)) :
    Gives more (recordOf? rules ((k, w) :: ms) s)
      (r.readFields bound depth (fuel + 1) first s input) := by
  rw [recordOf?_cons, Record.readFields, hnext]
  refine ((gives_readString k hspaced).under .unknown).bind fun name rest hbehind => ?_
  exact (gives_readField h name s hbound (ends_moreMembers ms more) hbehind).bind hrest

/-- At the brace the record is completed. -/
theorem gives_readFields_nil (h : Governed rules r bound depth) (fuel : Nat) (first : Bool) (s : σ)
    {more : List Input} {input : Input} (hspaced : Spaced (token ['}'] :: more) input) :
    Gives more (recordOf? rules [] s) (r.readFields bound depth (fuel + 1) first s input) := by
  obtain ⟨hnone, rest, hclose, hrest⟩ := Spaced.closeObject hspaced first
  have hrecord : recordOf? rules [] s = (Record.complete r.fields s).toOption :=
    (toOption_complete h s).symm
  rw [hrecord, Record.readFields, hnone]
  simp only [bind, Except.bind, under_ok, hclose]
  cases Record.complete r.fields s with
  | ok t => exact .read hrest
  | error name => exact .refused

theorem gives_readFields_more (h : Governed rules r bound depth)
    {ms : List (List Piece × Written)} (hms : ∀ m ∈ ms, m.2.tokens.length ≤ bound) {fuel : Nat}
    (hfuel : ms.length < fuel) (s : σ) {more : List Input} {input : Input}
    (hspaced : Spaced (Written.moreMembers ms ++ more) input) :
    Gives more (recordOf? rules ms s) (r.readFields bound depth fuel false s input) := by
  induction ms generalizing fuel s input with
  | nil =>
    cases fuel with
    | zero => cases hfuel
    | succ fuel => exact gives_readFields_nil h fuel false s hspaced
  | cons m ms ih =>
    obtain ⟨k, w⟩ := m
    cases fuel with
    | zero => cases hfuel
    | succ fuel =>
      obtain ⟨hw, hms⟩ := List.forall_mem_cons.1 hms
      simp only [Written.moreMembers, List.cons_append, List.append_assoc] at hspaced
      obtain ⟨next, hnext, hspaced⟩ := hspaced.nextMember_more
      exact gives_readFields_step h hw hnext hspaced fun s rest hrest =>
        ih hms (Nat.lt_of_succ_lt_succ hfuel) s hrest

/-- A record is read off an object. -/
theorem gives_readFields (h : Governed rules r bound depth) {ms : List (List Piece × Written)}
    (hbound : (Written.object ms).tokens.length ≤ bound) (s : σ) {more : List Input} {input : Input}
    (hspaced : Spaced ((Written.object ms).tokens ++ more) input) :
    ∃ rest, skipSpace input = .char '{' :: rest ∧
      Gives more (recordOf? rules ms s) (r.readFields bound depth bound true s rest) := by
  obtain ⟨hlength, hall⟩ := length_tokens_object ms
  have hms (m : List Piece × Written) (hm : m ∈ ms) : m.2.tokens.length ≤ bound :=
    Nat.le_trans (Nat.le_of_lt (hall m hm)) hbound
  obtain ⟨fuel, hfuel⟩ : ∃ fuel, bound = fuel + 1 := ⟨bound - 1, by omega⟩
  cases ms with
  | nil =>
    obtain ⟨rest, hskip, hspaced⟩ := Spaced.skipSpace_mark hspaced (by decide)
    have hgives := gives_readFields_nil h fuel true s hspaced
    rw [← hfuel] at hgives
    exact ⟨rest, hskip, hgives⟩
  | cons m ms =>
    obtain ⟨k, w⟩ := m
    obtain ⟨hw, hms⟩ := List.forall_mem_cons.1 hms
    simp only [Written.tokens, List.cons_append, List.append_assoc] at hspaced
    obtain ⟨rest, hskip, hspaced⟩ := hspaced.skipSpace_mark (by decide)
    obtain ⟨next, hnext, hspaced⟩ := hspaced.nextMember_first
    have hmore : ms.length < fuel := by
      simp only [List.length_cons] at hlength
      omega
    have hgives : Gives more (recordOf? rules ((k, w) :: ms) s)
        (r.readFields bound depth (fuel + 1) true s rest) :=
      gives_readFields_step h hw hnext hspaced fun s rest hrest =>
        gives_readFields_more h hms hmore s hrest
    rw [← hfuel] at hgives
    exact ⟨rest, hskip, hgives⟩

/-! ## Reading a record off a list -/

/-- The record that items make, the first for the first field and so on. -/
def recordInOrder? : List (Rule σ) → List Written → σ → Option σ
  | [], [], s => some s
  | [], _ :: _, _ => none
  | q :: rs, [], s => q.default?.bind fun g => recordInOrder? rs [] (g s)
  | q :: rs, x :: xs, s => (q.value? x).bind fun g => recordInOrder? rs xs (g s)

/-- Behind a comma there is no end of a list. -/
theorem Spaced.closeList_refused {ts : List Input} {input : Input}
    (h : Spaced (token [','] :: ts) input) : ∃ f, Json.closeList input = .error f := by
  obtain ⟨rest, hskip, -⟩ := h.skipSpace_mark (by decide)
  rw [Json.closeList, hskip]
  simp only
  split
  · exact ⟨_, rfl⟩
  · exact ⟨_, rfl⟩

section

variable {fields : List (Field σ)}

/-- At the bracket the fields that are left get their defaults. -/
theorem gives_readInOrder_nil
    (h : List.Forall₂ (fun q f => Rule.Governs q bound depth f) rules fields) (index : Nat) (s : σ)
    {more : List Input} {input : Input} (hspaced : Spaced (token [']'] :: more) input) :
    Gives more (recordInOrder? rules [] s) (r.readInOrder bound depth fields index s input) := by
  induction h generalizing index s with
  | nil =>
    obtain ⟨-, rest, hclose, hrest⟩ := hspaced.closeList true
    rw [Record.readInOrder, hclose]
    exact .read hrest
  | @cons q f rs fs hf _ ih =>
    obtain ⟨hnone, rest, hclose, hrest⟩ := hspaced.closeList (index == 0)
    rw [Record.readInOrder, hnone, recordInOrder?]
    simp only [bind, Except.bind, hf.default_eq]
    cases q.default? with
    | none =>
      simp only [Option.map_none, hclose]
      exact .refused
    | some g => exact ih (index + 1) (g s)

/-- One item is read for its field, and then the others. -/
theorem gives_readInOrder_step {q : Rule σ} {f : Field σ} (hf : q.Governs bound depth f)
    {w : Written} (hbound : w.tokens.length ≤ bound) {index : Nat} {first : Bool}
    (hfirst : (index == 0) = first)
    {s : σ} {xs : List Written} {more : List Input} {input next : Input}
    (hnext : nextItem first input = .ok (some next))
    (hspaced : Spaced (w.tokens ++ (Written.moreItems xs ++ more)) next)
    (hrest : ∀ s rest, Spaced (Written.moreItems xs ++ more) rest →
      Gives more (recordInOrder? rules xs s)
        (r.readInOrder bound depth fields (index + 1) s rest)) :
    Gives more (recordInOrder? (q :: rules) (w :: xs) s)
      (r.readInOrder bound depth (f :: fields) index s input) := by
  have hrecord : recordInOrder? (q :: rules) (w :: xs) s =
      ((q.value? w).map (· s)).bind (recordInOrder? rules xs) := by
    rw [recordInOrder?]
    cases q.value? w <;> rfl
  rw [hrecord, Record.readInOrder, hfirst, hnext]
  exact ((hf.gives s hbound _ _ hspaced (ends_moreItems xs more)).under (.item index)).bind hrest

theorem gives_readInOrder_more
    (h : List.Forall₂ (fun q f => Rule.Governs q bound depth f) rules fields) {xs : List Written}
    (hxs : ∀ x ∈ xs, x.tokens.length ≤ bound) (index : Nat) (s : σ) {more : List Input}
    {input : Input} (hspaced : Spaced (Written.moreItems xs ++ more) input) :
    Gives more (recordInOrder? rules xs s)
      (r.readInOrder bound depth fields (index + 1) s input) := by
  induction h generalizing xs index s input with
  | nil =>
    cases xs with
    | nil => exact gives_readInOrder_nil .nil (index + 1) s hspaced
    | cons x xs =>
      obtain ⟨f, hclose⟩ := Spaced.closeList_refused hspaced
      rw [Record.readInOrder, hclose]
      exact .refused
  | @cons q f rs fs hf hfs ih =>
    cases xs with
    | nil => exact gives_readInOrder_nil (.cons hf hfs) (index + 1) s hspaced
    | cons x xs =>
      obtain ⟨hx, hxs⟩ := List.forall_mem_cons.1 hxs
      rw [Written.moreItems, List.cons_append, List.append_assoc] at hspaced
      obtain ⟨next, hnext, hspaced⟩ := hspaced.nextItem_more
      have hlater : (index + 1 == 0) = false := rfl
      exact gives_readInOrder_step hf hx hlater hnext hspaced fun s rest hrest =>
        ih hxs (index + 1) s hrest

end

/-- A record is read off a list, item by item, if it has any field. -/
theorem gives_readInOrder {q : Rule σ} {f : Field σ} {fields : List (Field σ)}
    (hf : q.Governs bound depth f)
    (hfs : List.Forall₂ (fun q f => Rule.Governs q bound depth f) rules fields) {xs : List Written}
    (hbound : (Written.array xs).tokens.length ≤ bound) (s : σ) {more : List Input} {input : Input}
    (hspaced : Spaced ((Written.array xs).tokens ++ more) input) :
    ∃ rest, skipSpace input = .char '[' :: rest ∧
      Gives more (recordInOrder? (q :: rules) xs s)
        (r.readInOrder bound depth (f :: fields) 0 s rest) := by
  obtain ⟨-, hall⟩ := length_tokens_array xs
  have hxs (x : Written) (hx : x ∈ xs) : x.tokens.length ≤ bound :=
    Nat.le_trans (Nat.le_of_lt (hall x hx)) hbound
  cases xs with
  | nil =>
    obtain ⟨rest, hskip, hspaced⟩ := Spaced.skipSpace_mark hspaced (by decide)
    exact ⟨rest, hskip, gives_readInOrder_nil (.cons hf hfs) 0 s hspaced⟩
  | cons x xs =>
    obtain ⟨hx, hxs⟩ := List.forall_mem_cons.1 hxs
    rw [Written.tokens, List.cons_append, List.append_assoc] at hspaced
    obtain ⟨rest, hskip, hspaced⟩ := hspaced.skipSpace_mark (by decide)
    obtain ⟨next, hnext, hspaced⟩ := hspaced.nextItem_first
    have hfirst : (0 == 0) = true := rfl
    exact ⟨rest, hskip, gives_readInOrder_step hf hx hfirst hnext hspaced fun s rest hrest =>
      gives_readInOrder_more hfs hxs 0 s hrest⟩

theorem given_zip {name : String} {names : List String} (h : name ∉ names) (xs : List Written) :
    given name (names.zip xs) = [] := by
  refine List.filterMap_eq_nil_iff.2 fun p hp => if_neg ?_
  rintro rfl
  exact h (List.of_mem_zip hp).1

/-- Items in order are what is given to the fields by their names. -/
theorem recordInOrder?_eq (hnames : (rules.map (·.name)).Nodup) (xs : List Written) (s : σ) :
    recordInOrder? rules xs s =
      if xs.length ≤ rules.length then setAll rules ((rules.map (·.name)).zip xs) s else none := by
  induction rules generalizing xs s with
  | nil => cases xs <;> simp [recordInOrder?, setAll]
  | cons q rs ih =>
    obtain ⟨hq, hrs⟩ := List.nodup_cons.1 hnames
    cases xs with
    | nil =>
      have hrest (g : σ → σ) : recordInOrder? rs [] (g s) = setAll rs [] (g s) := by
        rw [ih hrs, List.zip_nil_right]
        exact if_pos (Nat.zero_le _)
      simp [recordInOrder?, setAll, given, field, hrest]
    | cons x xs =>
      have hgiven : given q.name (((q :: rs).map (·.name)).zip (x :: xs)) = [x] := by
        rw [List.map_cons, List.zip_cons_cons, given_cons_self, given_zip hq]
      have hother (r : Rule σ) (hr : r ∈ rs) : q.name ≠ r.name := fun he =>
        hq (List.mem_map.2 ⟨r, hr, he.symm⟩)
      have hrest (s : σ) : setAll rs (((q :: rs).map (·.name)).zip (x :: xs)) s =
          setAll rs ((rs.map (·.name)).zip xs) s := setAll_cons_ne hother x _ s
      simp only [recordInOrder?, setAll, hgiven, field, hrest, ih hrs, List.length_cons,
        Nat.add_le_add_iff_right]
      by_cases hle : xs.length ≤ rs.length
      · simp only [if_pos hle]
      · simp only [if_neg hle]
        cases q.value? x <;> rfl

/-! ## Records -/

/-- The record that a tree makes of an empty one. -/
def record? (rules : List (Rule σ)) (empty : σ) (w : Written) : Option σ :=
  (w.pairs? (rules.map (·.name))).bind fun ps => setAll rules ps empty

/-- What is refused gives nothing. -/
theorem exists_refuse_eq {α : Type} (wanted : String) (input : Input) :
    ∃ f, (refuse wanted input : Except Fault α) = .error f := by
  cases h : (refuse wanted input : Except Fault α) with
  | ok x => exact absurd h (Record.refuse_ne_ok wanted input x)
  | error f => exact ⟨f, rfl⟩

theorem gives_refuse {α : Type} (wanted : String) (input : Input) {more : List Input} :
    Gives more (none : Option α) (refuse wanted input) := by
  obtain ⟨f, hrefuse⟩ := exists_refuse_eq (α := α × Input) wanted input
  rw [hrefuse]
  exact .refused

/-- Every field of the record follows a rule of its own, and an empty record has
none filled yet. -/
structure Ruled (rules : List (Rule σ)) (r : Record σ) (empty : σ) (depth : Nat) : Prop where
  rules_ne : rules ≠ []
  governed (bound : Nat) : Governed rules r bound depth
  fills : ∀ q ∈ rules, q.Fills
  apart : rules.Pairwise Rule.Apart
  unfilled : ∀ q ∈ rules, q.filled empty = false

namespace Ruled

variable {empty : σ}

theorem names (h : Ruled rules r empty depth) : (rules.map (·.name)).Nodup :=
  List.pairwise_map.2 (h.apart.imp fun hapart => hapart.names_ne)

/-- The reader of lists puts the values into the record as they come, -/
theorem record?_array (h : Ruled rules r empty depth) (xs : List Written) :
    record? rules empty (.array xs) = recordInOrder? rules xs empty := by
  rw [recordInOrder?_eq h.names, record?, pairs?, List.length_map]
  by_cases hle : xs.length ≤ rules.length
  · rw [if_pos hle, if_pos hle]
    rfl
  · rw [if_neg hle, if_neg hle]
    rfl

/-- and so does the reader of objects. -/
theorem record?_object (h : Ruled rules r empty depth) (ms : List (List Piece × Written)) :
    record? rules empty (.object ms) = recordOf? rules ms empty := by
  rw [record?, pairs?, recordOf?]
  congr 1
  funext ps
  rw [putAll_bind_setOn h.fills h.apart, setOn_eq_setAll h.apart ps h.unfilled]

end Ruled

/-- **A record is read off a tree** as the values that the tree gives to its
fields, whether they come by name, in any order and among others, or by
position. -/
theorem gives_read {r : Record σ} {empty : σ} (h : Ruled rules r empty depth) {w : Written}
    (hbound : w.tokens.length ≤ bound) :
    GivesOn (r.read empty bound (depth + 1)) (record? rules empty w) w := by
  have hgoverned := h.governed bound
  intro more input hspaced hends
  have hnone (hlist : ∀ xs, w ≠ .array xs) (hobject : ∀ ms, w ≠ .object ms)
      (hpairs : w.pairs? (rules.map (·.name)) = none) :
      Gives more (record? rules empty w) (r.read empty bound (depth + 1) input) := by
    obtain ⟨c, rest, hskip, hc⟩ := hspaced.skipSpace_value
    have hopen : c ≠ '[' ∧ c ≠ '{' :=
      ⟨fun h => (hc.array_of h).elim hlist, fun h => (hc.object_of h).elim hobject⟩
    rw [record?, hpairs, Record.read, hskip]
    split
    · next h => cases h
    · next h => exact absurd (Symbol.char.inj (List.cons.inj h).1) hopen.1
    · next h => exact absurd (Symbol.char.inj (List.cons.inj h).1) hopen.2
    · exact gives_refuse _ _
  cases w with
  | null => exact hnone (by simp) (by simp) rfl
  | bool b => exact hnone (by simp) (by simp) rfl
  | number f => exact hnone (by simp) (by simp) rfl
  | string ps => exact hnone (by simp) (by simp) rfl
  | array xs =>
    obtain ⟨name, fields⟩ := r
    rw [h.record?_array]
    cases hgoverned with
    | nil => exact absurd rfl h.rules_ne
    | cons hf hfs =>
      obtain ⟨rest, hskip, hgives⟩ := gives_readInOrder hf hfs hbound empty hspaced
      rw [Record.read, hskip]
      exact hgives
  | object ms =>
    obtain ⟨rest, hskip, hgives⟩ := gives_readFields hgoverned hbound empty hspaced
    rw [h.record?_object, Record.read, hskip]
    exact hgives

/-- How deep the value of a field may be, which lies in a record already. -/
def fieldDepth : Nat := 126

/-- **A whole text is read as the record that its tree makes**, if it is a record
that was finished. -/
theorem Ruled.toOption_readAll {α : Type} {r : Record σ} {empty : σ}
    (hruled : Ruled rules r empty fieldDepth) {read : Nat → Nat → Input → Except Fault (α × Input)}
    {finish : σ × Input → Except Fault (α × Input)} {finish? : σ → Option α}
    (hread : ∀ bound depth input,
      read bound depth input = r.read empty bound depth input >>= finish)
    (hfinish : ∀ s rest, (finish (s, rest)).toOption = (finish? s).map fun x => (x, rest))
    {w : Written} {input : Input} (h : Spaced w.tokens input) :
    (readAll read input).toOption = (record? rules empty w).bind finish? := by
  refine Json.toOption_readAll (fun {bound} hbound more input h hends => ?_) h
  rw [hread]
  exact (gives_read hruled hbound more input h hends).bind fun s rest hrest =>
    .of_toOption (hfinish s rest) hrest

/-! ## Text -/

namespace Written

/-- The text that a tree stands for, if it is a string. -/
def string? : Written → Option String
  | .string ps => text? ps
  | _ => none

/-- The text that a tree stands for, or its absence. -/
def optionalString? : Written → Option (Option String)
  | .null => some none
  | .string ps => (text? ps).map some
  | _ => none

end Written

/-- What stands where a string does. -/
theorem Spaced.skipSpace_quote {ps : List Piece} {more : List Input} {input : Input}
    (h : Spaced ((Written.string ps).tokens ++ more) input) :
    ∃ rest, skipSpace input = .char '"' :: (closed ps ++ rest) ∧ Spaced more rest :=
  h.skipSpace_cons rfl

/-- A reader of strings gives what the string stands for, and refuses anything
else. -/
theorem givesOn_string {α : Type} {read : Input → Read α} {f : String → Option α} {w : Written}
    (hstring : ∀ {ps : List Piece} {more : List Input} {input rest : Input},
      skipSpace input = .char '"' :: (closed ps ++ rest) → Spaced more rest →
        Gives more ((text? ps).bind f) (read input))
    (hother : ∀ {c : Char} {input rest : Input}, skipSpace input = .char c :: rest → c ≠ '"' →
      Leads w c → ∃ fault, read input = .error fault) :
    GivesOn read (w.string?.bind f) w := by
  intro more input h _
  have hrefused (hw : ∀ ps, w ≠ .string ps) : Gives more none (read input) := by
    obtain ⟨c, rest, hskip, hc⟩ := h.skipSpace_value
    obtain ⟨fault, hread⟩ := hother hskip (fun hquote => (hc.string_of hquote).elim hw) hc
    rw [hread]
    exact .refused
  cases w with
  | string ps =>
    obtain ⟨rest, hskip, hrest⟩ := h.skipSpace_quote
    exact hstring hskip hrest
  | null => exact hrefused (by simp)
  | bool b => exact hrefused (by simp)
  | number f => exact hrefused (by simp)
  | array xs => exact hrefused (by simp)
  | object ms => exact hrefused (by simp)

/-- Text is read off strings only. -/
theorem gives_readText (w : Written) : GivesOn readText w.string? w := by
  have hgives : GivesOn readText (w.string?.bind some) w := by
    refine givesOn_string (fun hskip hrest => ?_) fun hskip hc _ => ?_
    · rw [Option.bind_fun_some, readText, hskip]
      exact gives_readString _ hrest
    · rw [readText, hskip]
      split
      · next h => cases h
      · next h => exact absurd (Symbol.char.inj (List.cons.inj h).1) hc
      · exact exists_refuse_eq _ _
  rwa [Option.bind_fun_some] at hgives

/-- In front of a value other than null, text that may be absent is read as text. -/
theorem readOptionalText_of_ne_null {w : Written} (hw : w ≠ .null) {more : List Input}
    {input : Input} (h : Spaced (w.tokens ++ more) input) :
    readOptionalText input = (readText input).map fun (s, rest) => (some s, rest) := by
  obtain ⟨c, rest, hskip, hc⟩ := h.skipSpace_value
  have hread : readText (.char c :: rest) = readText input := by
    rw [readText, ← hskip, skipSpace_skipSpace, readText]
  rw [readOptionalText, hskip]
  split
  · next hn => exact absurd (hc.null_of (Symbol.char.inj (List.cons.inj hn).1)) hw
  · rw [hread]

/-- Text that may be absent is read off strings and off null. -/
theorem gives_readOptionalText (w : Written) : GivesOn readOptionalText w.optionalString? w := by
  intro more input h hends
  have hgives := (gives_readText w more input h hends).map some
  cases w with
  | null =>
    obtain ⟨rest, hskip, hrest⟩ := Spaced.skipSpace_cons h rfl
    rw [readOptionalText, hskip]
    simp only [List.map_cons, List.map_nil, List.cons_append, List.nil_append, readWord, if_true]
    exact .read hrest
  | _ =>
    rw [readOptionalText_of_ne_null (by simp) h]
    exact hgives

end Json

end EventFeed
