import EventFeed.Json.Reader.Record
import EventFeed.Proofs.Json.RoundTrip

/-!
# EventFeed.Proofs.Json.Record

Reading records.  What holds of the empty record and is kept by every field
holds of each record that is read (`Record.keeps_read`).  And a record whose
members fill its fields one after the other (`Record.Fills`) is read off the
text of the object that they form (`Record.read_object`), and refused if the
value of a later member cannot be read (`Record.read_object_refused`).
-/

namespace EventFeed

namespace Json

namespace Record

variable {σ : Type} {r : Record σ} {bound depth : Nat}

/-! ## What reading keeps -/

/-- Refusing gives nothing. -/
theorem refuse_ne_ok {α : Type} (wanted : String) (input : Input) (x : α) :
    refuse wanted input ≠ .ok x := by
  intro h
  unfold refuse at h
  split at h
  · cases h
  · cases h
  · split at h <;> cases h

/-- The field keeps a property, be it read or left to its default. -/
def Keeps (P : σ → Prop) (f : Field σ) : Prop :=
  (∀ {bound depth : Nat} {input rest : Input} {s t : σ},
    f.read bound depth input s = .ok (t, rest) → P s → P t) ∧
  ∀ {s t : σ}, f.default? s = some t → P s → P t

theorem keeps_complete {P : σ → Prop} {fs : List (Field σ)} (hfs : ∀ f ∈ fs, Keeps P f) {s t : σ}
    (h : complete fs s = .ok t) (hs : P s) : P t := by
  induction fs generalizing s with
  | nil =>
    cases h
    exact hs
  | cons f fs ih =>
    have hrest := fun g hg => hfs g (List.mem_cons_of_mem _ hg)
    rw [complete] at h
    split at h
    · exact ih hrest h hs
    · split at h
      · next s' hdefault => exact ih hrest h ((hfs f List.mem_cons_self).2 hdefault hs)
      · cases h

theorem keeps_readField {P : σ → Prop} (hr : ∀ f ∈ r.fields, Keeps P f) {name : String}
    {input rest : Input} {s t : σ} (h : r.readField bound depth name s input = .ok (t, rest))
    (hs : P s) : P t := by
  rw [readField] at h
  split at h
  · obtain ⟨_, -, h⟩ := bind_eq_ok_iff.1 h
    obtain ⟨_, -, h⟩ := bind_eq_ok_iff.1 h
    cases h
    exact hs
  · next f hf =>
    split at h
    · cases h
    · obtain ⟨_, -, h⟩ := bind_eq_ok_iff.1 h
      exact (hr f (List.mem_of_find?_eq_some hf)).1 (under_eq_ok_iff.1 h) hs

theorem keeps_readFields {P : σ → Prop} (hr : ∀ f ∈ r.fields, Keeps P f) {fuel : Nat} {first : Bool}
    {input rest : Input} {s t : σ}
    (h : r.readFields bound depth fuel first s input = .ok (t, rest)) (hs : P s) : P t := by
  induction fuel generalizing first s input with
  | zero => cases h
  | succ fuel ih =>
    rw [readFields] at h
    obtain ⟨next, -, h⟩ := bind_eq_ok_iff.1 h
    cases next with
    | none =>
      obtain ⟨_, -, h⟩ := bind_eq_ok_iff.1 h
      split at h
      · next hcomplete =>
        cases h
        exact keeps_complete hr hcomplete hs
      · cases h
    | some more =>
      obtain ⟨_, -, h⟩ := bind_eq_ok_iff.1 h
      obtain ⟨_, hfield, h⟩ := bind_eq_ok_iff.1 h
      exact ih h (keeps_readField hr hfield hs)

theorem keeps_readInOrder {P : σ → Prop} {fs : List (Field σ)} (hfs : ∀ f ∈ fs, Keeps P f)
    {index : Nat} {input rest : Input} {s t : σ}
    (h : r.readInOrder bound depth fs index s input = .ok (t, rest)) (hs : P s) : P t := by
  induction fs generalizing index s input with
  | nil =>
    rw [readInOrder] at h
    obtain ⟨_, -, h⟩ := bind_eq_ok_iff.1 h
    cases h
    exact hs
  | cons f fs ih =>
    have hf := hfs f List.mem_cons_self
    have hrest := fun g hg => hfs g (List.mem_cons_of_mem _ hg)
    rw [readInOrder] at h
    obtain ⟨next, -, h⟩ := bind_eq_ok_iff.1 h
    cases next with
    | some more =>
      obtain ⟨_, hread, h⟩ := bind_eq_ok_iff.1 h
      exact ih hrest h (hf.1 (under_eq_ok_iff.1 hread) hs)
    | none =>
      dsimp only at h
      split at h
      · next hdefault => exact ih hrest h (hf.2 hdefault hs)
      · obtain ⟨_, -, h⟩ := bind_eq_ok_iff.1 h
        cases h

/-- What every field keeps is kept from the empty record to the one that is
read. -/
theorem keeps_read {P : σ → Prop} (hr : ∀ f ∈ r.fields, Keeps P f) {empty t : σ}
    {input rest : Input} (h : r.read empty bound depth input = .ok (t, rest)) (hs : P empty) :
    P t := by
  rw [read] at h
  split at h
  · cases h
  · split at h
    · cases h
    · exact keeps_readInOrder hr h hs
  · split at h
    · cases h
    · exact keeps_readFields hr h hs
  · exact absurd h (refuse_ne_ok _ _ _)

/-! ## Reading what is written -/

/-- The members, one after the other, fill fields of the record: each is of
a field that is not filled yet, and its value is read off its text. -/
inductive Fills (r : Record σ) (bound depth : Nat) : σ → List (String × Json) → σ → Prop
  | done (s : σ) : Fills r bound depth s [] s
  | member {s : σ} (s' : σ) {t : σ} {name : String} {x : Json} {ms : List (String × Json)}
      {f : Field σ}
      (known : r.fields.find? (·.name == name) = some f) (unfilled : f.filled s = false)
      (read : ∀ rest, EndsNumber rest →
        f.read bound depth (x.chars.map .char ++ rest) s = .ok (s', rest)) :
    Fills r bound depth s' ms t → Fills r bound depth s ((name, x) :: ms) t

/-- Members that fill fields, and more that fill further ones. -/
theorem Fills.append {s t u : σ} {ms more : List (String × Json)} (h : Fills r bound depth s ms t)
    (hmore : Fills r bound depth t more u) : Fills r bound depth s (ms ++ more) u := by
  induction h with
  | done s => exact hmore
  | member s' known unfilled read _ ih => exact .member s' known unfilled read (ih hmore)

/-- One member is read, and then the others. -/
theorem readFields_step {fuel : Nat} {first : Bool} {s s' : σ} {input next behind : Input}
    {name : String} {f : Field σ}
    (hnext : nextMember first input = .ok (some ((escapedChars name).map .char ++ .char '"' ::
      .char ':' :: next)))
    (known : r.fields.find? (·.name == name) = some f) (unfilled : f.filled s = false)
    (hread : f.read bound depth next s = .ok (s', behind)) :
    r.readFields bound depth (fuel + 1) first s input =
      r.readFields bound depth fuel false s' behind := by
  have hcolon : readColon (.char ':' :: next) = .ok next := rfl
  have hfield : r.readField bound depth name s (.char ':' :: next) = .ok (s', behind) := by
    rw [readField, known]
    simp only [unfilled, Bool.false_eq_true, if_false, hcolon, bind, Except.bind, hread, under_ok]
  rw [readFields, hnext]
  simp only [bind, Except.bind, under_ok, readString_escaped, hfield]

/-- The members behind the first one are read, and the brace. -/
theorem readFields_membersChars {s t u : σ} {ms : List (String × Json)}
    (h : Fills r bound depth s ms t) (hcomplete : complete r.fields t = .ok u) {fuel : Nat}
    (hfuel : ms.length < fuel) (rest : Input) :
    r.readFields bound depth fuel false s ((membersChars ms).map .char ++ rest) =
      .ok (u, rest) := by
  induction h generalizing fuel with
  | done s =>
    cases fuel with
    | zero => cases hfuel
    | succ fuel =>
      have hnone : nextMember false ((membersChars []).map .char ++ rest) = .ok none := rfl
      have hclose : closeObject ((membersChars []).map .char ++ rest) = .ok rest := rfl
      rw [readFields, hnone]
      simp only [bind, Except.bind, under_ok, hclose, hcomplete, pure, Except.pure]
  | @member s s' t name x ms f known unfilled read _ ih =>
    cases fuel with
    | zero => cases hfuel
    | succ fuel =>
      have hnext : nextMember false ((membersChars ((name, x) :: ms)).map .char ++ rest) =
          .ok (some ((escapedChars name).map .char ++ .char '"' :: .char ':' ::
            (x.chars.map .char ++ ((membersChars ms).map .char ++ rest)))) := by
        rw [membersChars]
        simp [map_stringChars]
        rfl
      rw [readFields_step hnext known unfilled (read _ (endsNumber_membersChars ms rest))]
      exact ih hcomplete (Nat.lt_of_succ_lt_succ hfuel)

/-- A record is read off the text of an object whose members fill it. -/
theorem read_object {empty t u : σ} {ms : List (String × Json)}
    (h : Fills r bound depth empty ms t) (hcomplete : complete r.fields t = .ok u)
    (hbound : (Json.object ms).chars.length ≤ bound) (rest : Input) :
    r.read empty bound (depth + 1) ((Json.object ms).chars.map .char ++ rest) = .ok (u, rest) := by
  cases h with
  | done s =>
    cases bound with
    | zero => simp [chars] at hbound
    | succ bound =>
      have hempty : (Json.object []).chars.map .char ++ rest = .char '{' :: .char '}' :: rest := rfl
      have hnone : nextMember true (.char '}' :: rest) = .ok none := rfl
      have hclose : closeObject (.char '}' :: rest) = .ok rest := rfl
      rw [hempty, Record.read, skipSpace_of_starts (by decide)]
      simp only [readFields, hnone, bind, Except.bind, under_ok, hclose, hcomplete, pure,
        Except.pure]
  | @member s s' t name x ms f known unfilled read h =>
    have hlen := (length_membersChars ms).1
    cases bound with
    | zero => simp [chars] at hbound
    | succ bound =>
      have hmembers : ms.length < bound := by
        simp only [chars, List.length_append, List.length_cons] at hbound
        omega
      simp only [chars, List.cons_append, List.map_cons, List.map_append, List.append_assoc]
      rw [Record.read, skipSpace_of_starts (by decide)]
      simp only [map_stringChars]
      rw [readFields_step rfl known unfilled (read _ (endsNumber_membersChars ms rest))]
      exact readFields_membersChars h hcomplete hmembers rest

/-! ## Refusing what is written -/

/-- A record is refused if the value of its next member is. -/
theorem readFields_refused_step {fuel : Nat} {first : Bool} {s : σ} {input next : Input}
    {name : String} {f : Field σ}
    (hnext : nextMember first input = .ok (some ((escapedChars name).map .char ++ .char '"' ::
      .char ':' :: next)))
    (known : r.fields.find? (·.name == name) = some f) (unfilled : f.filled s = false)
    (hread : ∃ e, f.read bound depth next s = .error e) :
    ∃ e, r.readFields bound depth (fuel + 1) first s input = .error e := by
  obtain ⟨e, hread⟩ := hread
  have hcolon : readColon (.char ':' :: next) = .ok next := rfl
  have hfield : ∃ e, r.readField bound depth name s (.char ':' :: next) = .error e := by
    rw [readField, known]
    simp only [unfilled, Bool.false_eq_true, if_false, hcolon, bind, Except.bind, hread]
    exact ⟨_, rfl⟩
  obtain ⟨e', hfield⟩ := hfield
  rw [readFields, hnext]
  simp only [bind, Except.bind, under_ok, readString_escaped, hfield]
  exact ⟨e', rfl⟩

/-- A record is refused if the value of a later member is, those before it
filling their fields. -/
theorem readFields_refused {s t : σ} {ms behind : List (String × Json)} {name : String} {x : Json}
    {f : Field σ} (h : Fills r bound depth s ms t)
    (known : r.fields.find? (·.name == name) = some f) (unfilled : f.filled t = false)
    (hread : ∀ rest, EndsNumber rest →
      ∃ e, f.read bound depth (x.chars.map .char ++ rest) t = .error e)
    (fuel : Nat) (rest : Input) :
    ∃ e, r.readFields bound depth fuel false s
      ((membersChars (ms ++ (name, x) :: behind)).map .char ++ rest) = .error e := by
  induction h generalizing fuel with
  | done s =>
    cases fuel with
    | zero => exact ⟨_, rfl⟩
    | succ fuel =>
      have hends := endsNumber_membersChars behind rest
      refine readFields_refused_step ?_ known unfilled (hread _ hends)
      rw [List.nil_append, membersChars]
      simp [map_stringChars]
      rfl
  | @member s s' t name' x' ms f' known' unfilled' read' _ ih =>
    cases fuel with
    | zero => exact ⟨_, rfl⟩
    | succ fuel =>
      have hends := endsNumber_membersChars (ms ++ (name, x) :: behind) rest
      have hstep : r.readFields bound depth (fuel + 1) false s
          ((membersChars ((name', x') :: ms ++ (name, x) :: behind)).map .char ++ rest) =
          r.readFields bound depth fuel false s'
            ((membersChars (ms ++ (name, x) :: behind)).map .char ++ rest) := by
        refine readFields_step ?_ known' unfilled' (read' _ hends)
        rw [List.cons_append, membersChars]
        simp [map_stringChars]
        rfl
      rw [hstep]
      exact ih unfilled hread fuel

/-- **An object is refused** if, behind members that fill their fields, the
value of a member is. -/
theorem read_object_refused {empty t : σ} {ms behind : List (String × Json)} {name : String}
    {x : Json} {f : Field σ} (h : Fills r bound depth empty ms t)
    (known : r.fields.find? (·.name == name) = some f) (unfilled : f.filled t = false)
    (hread : ∀ rest, EndsNumber rest →
      ∃ e, f.read bound depth (x.chars.map .char ++ rest) t = .error e) (rest : Input) :
    ∃ e, r.read empty bound (depth + 1)
      ((Json.object (ms ++ (name, x) :: behind)).chars.map .char ++ rest) = .error e := by
  cases bound with
  | zero =>
    cases h <;>
    · simp only [List.nil_append, List.cons_append, chars, List.map_cons]
      rw [Record.read, skipSpace_of_starts (by decide)]
      exact ⟨_, rfl⟩
  | succ bound =>
    cases h with
    | done s =>
      have hends := endsNumber_membersChars behind rest
      simp only [List.nil_append, chars, List.cons_append, List.map_cons, List.map_append,
        List.append_assoc]
      rw [Record.read, skipSpace_of_starts (by decide)]
      simp only [map_stringChars]
      exact readFields_refused_step rfl known unfilled (hread _ hends)
    | @member s s' t name' x' ms f' known' unfilled' read' h =>
      have hends := endsNumber_membersChars (ms ++ (name, x) :: behind) rest
      simp only [chars, List.cons_append, List.map_cons, List.map_append, List.append_assoc]
      rw [Record.read, skipSpace_of_starts (by decide)]
      simp only [map_stringChars]
      rw [readFields_step rfl known' unfilled' (read' _ hends)]
      exact readFields_refused h known unfilled hread bound rest

end Record

/-! ## Texts -/

/-- The symbols of the text of a record are the characters of the object. -/
theorem symbols_record (ms : List (String × Json)) :
    Utf8.ofText (Json.record ms) = (Json.object ms).chars.map .char ++ [] := by
  simp [Json.record, Json.text, Utf8.ofText]

/-- The text bounds the characters of the object. -/
theorem length_object_le_boundOf (ms : List (String × Json)) :
    (Json.object ms).chars.length ≤ boundOf (Utf8.ofText (Json.record ms)) := by
  simp [symbols_record, boundOf]

/-- It bounds those of each member as well. -/
theorem length_member_le_boundOf {m : String × Json} {ms : List (String × Json)} (h : m ∈ ms) :
    m.2.chars.length ≤ boundOf (Utf8.ofText (Json.record ms)) :=
  Nat.le_trans (length_le_object h) (length_object_le_boundOf ms)

theorem readText_chars (s : String) (rest : Input) :
    readText ((Json.string s).chars.map .char ++ rest) = .ok (s, rest) := by
  rw [chars, map_stringChars, readText, skipSpace_of_starts (by decide)]
  exact readString_escaped s rest

theorem readOptionalText_chars (s : String) (rest : Input) :
    readOptionalText ((Json.string s).chars.map .char ++ rest) = .ok (some s, rest) := by
  have hread := readText_chars s rest
  rw [chars, map_stringChars] at hread ⊢
  rw [readOptionalText, skipSpace_of_starts (by decide)]
  show (readText _).map _ = _
  rw [hread]
  rfl

end Json

end EventFeed
