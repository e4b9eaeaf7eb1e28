import EventFeed.Proofs.Json.Reread

/-!
# EventFeed.Proofs.Json.RoundTrip

Values are read as they are written (`readValue_chars`): an ordered value whose numbers
fit is read off its text by every reader that allows its depth and has a bound for its
length.  All of it is read as it is but its numbers, which are read again
(`Json.reread`), so a value with integers only is read as itself.

The proof follows the reader.  One step of a list or an object takes one
item or member of the printer; their runs are read by induction on the
parts, and values by induction on the depth allowed.
-/

namespace EventFeed

namespace Json

/-! ## Parts -/

theorem depth_le_depthItems {x : Json} {xs : List Json} (h : x ∈ xs) : x.depth ≤ depthItems xs := by
  induction xs with
  | nil => cases h
  | cons y ys ih =>
    rw [depthItems]
    rcases List.mem_cons.1 h with rfl | h
    · exact Nat.le_max_left _ _
    · exact Nat.le_trans (ih h) (Nat.le_max_right _ _)

theorem depth_le_depthMembers {m : String × Json} {ms : List (String × Json)} (h : m ∈ ms) :
    m.2.depth ≤ depthMembers ms := by
  induction ms with
  | nil => cases h
  | cons first rest ih =>
    obtain ⟨k, x⟩ := first
    rw [depthMembers]
    rcases List.mem_cons.1 h with rfl | h
    · exact Nat.le_max_left _ _
    · exact Nat.le_trans (ih h) (Nat.le_max_right _ _)

mutual

/-- It can be decided whether all numbers are integers. -/
def decideIntegers : (j : Json) → Decidable j.AllIntegers
  | .null | .bool _ | .string _ => .isTrue trivial
  | .number (.integer n) => inferInstanceAs (Decidable (Number.FitsInt n))
  | .number (.float _) => .isFalse id
  | .array xs => decideIntegersItems xs
  | .object ms => decideIntegersMembers ms

/-- The same for items. -/
def decideIntegersItems : (xs : List Json) → Decidable (AllIntegersItems xs)
  | [] => .isTrue trivial
  | x :: xs =>
    have := decideIntegers x
    have := decideIntegersItems xs
    inferInstanceAs (Decidable (_ ∧ _))

/-- The same for members. -/
def decideIntegersMembers : (ms : List (String × Json)) → Decidable (AllIntegersMembers ms)
  | [] => .isTrue trivial
  | (_, x) :: ms =>
    have := decideIntegers x
    have := decideIntegersMembers ms
    inferInstanceAs (Decidable (_ ∧ _))

end

instance (j : Json) : Decidable j.AllIntegers := decideIntegers j

/-- The text of the items is longer than there are items, and than the text
of each. -/
theorem length_itemsChars (xs : List Json) :
    xs.length < (itemsChars xs).length ∧ ∀ x ∈ xs, x.chars.length < (itemsChars xs).length := by
  induction xs with
  | nil => simp [itemsChars]
  | cons y ys ih =>
    simp only [itemsChars, List.length_append, List.length_cons, List.mem_cons]
    refine ⟨by omega, fun x hx => ?_⟩
    rcases hx with rfl | hx
    · omega
    · have := ih.2 x hx
      omega

theorem length_membersChars (ms : List (String × Json)) :
    ms.length < (membersChars ms).length ∧
      ∀ m ∈ ms, m.2.chars.length < (membersChars ms).length := by
  induction ms with
  | nil => simp [membersChars]
  | cons first rest ih =>
    obtain ⟨k, y⟩ := first
    simp only [membersChars, List.length_append, List.length_cons, List.mem_cons]
    refine ⟨by omega, fun m hm => ?_⟩
    rcases hm with rfl | hm
    · show y.chars.length < _
      omega
    · have := ih.2 m hm
      omega

/-- An item is not longer than its array. -/
theorem length_le_array {x : Json} {xs : List Json} (h : x ∈ xs) :
    x.chars.length ≤ (Json.array xs).chars.length := by
  cases xs with
  | nil => cases h
  | cons y ys =>
    simp only [chars, List.length_append, List.length_cons]
    rcases List.mem_cons.1 h with rfl | h
    · omega
    · have := (length_itemsChars ys).2 x h
      omega

theorem length_le_object {m : String × Json} {ms : List (String × Json)} (h : m ∈ ms) :
    m.2.chars.length ≤ (Json.object ms).chars.length := by
  cases ms with
  | nil => cases h
  | cons first rest =>
    obtain ⟨k, y⟩ := first
    simp only [chars, List.length_append, List.length_cons]
    rcases List.mem_cons.1 h with rfl | h
    · show y.chars.length ≤ _
      omega
    · have := (length_membersChars rest).2 m h
      omega

/-! ## Atoms -/

/-- A character that a value may start with. -/
def Starts (c : Char) : Prop := isSpace (.char c) = false ∧ c ≠ ']' ∧ c ≠ ',' ∧ c ≠ '}'

instance (c : Char) : Decidable (Starts c) := inferInstanceAs (Decidable (_ ∧ _))

theorem starts_of_isDigit {c : Char} (h : c.isDigit = true) : Starts c := by
  have hne {d : Char} := ne_of_isDigit (d := d) h
  refine ⟨?_, hne (by decide), hne (by decide), hne (by decide)⟩
  have hspace : c ≠ ' ' ∧ c ≠ '\t' ∧ c ≠ '\n' ∧ c ≠ '\r' :=
    ⟨hne (by decide), hne (by decide), hne (by decide), hne (by decide)⟩
  simp [isSpace, hspace]

/-- The text of a number starts like a value, and unlike a container. -/
theorem numberChars_starts {n : Number} (h : n.Fits) :
    ∃ c cs, n.chars = c :: cs ∧ Starts c ∧ c ≠ '[' ∧ c ≠ '{' := by
  obtain ⟨f, hchars, -⟩ := Number.exists_figures h
  obtain ⟨c, cs, hcs, hc⟩ := exists_chars_cons f
  refine ⟨c, cs, hchars.symm.trans hcs, ?_⟩
  rcases hc with ⟨-, rfl, -⟩ | ⟨-, hc, -⟩
  · decide
  · exact ⟨starts_of_isDigit hc, ne_of_isDigit hc (by decide), ne_of_isDigit hc (by decide)⟩

/-- So does the text of every value whose numbers fit. -/
theorem chars_starts {j : Json} (h : j.Fits) : ∃ c cs, j.chars = c :: cs ∧ Starts c := by
  cases j with
  | null => exact ⟨_, _, rfl, by decide⟩
  | bool b => cases b <;> exact ⟨_, _, rfl, by decide⟩
  | number n =>
    obtain ⟨c, cs, hcs, hc, -⟩ := numberChars_starts h
    exact ⟨c, cs, hcs, hc⟩
  | string s => exact ⟨_, _, rfl, by decide⟩
  | array xs => cases xs <;> exact ⟨_, _, rfl, by decide⟩
  | object ms => cases ms <;> exact ⟨_, _, rfl, by decide⟩

theorem skipSpace_of_starts {c : Char} (h : Starts c) (rest : Input) :
    skipSpace (.char c :: rest) = .char c :: rest := by
  simp [skipSpace, h.1]

/-- A word is read as the atom it stands for. -/
theorem readAtom_string (s : String) (rest : Input) :
    readAtom ((stringChars s).map .char ++ rest) = .ok (.string s, rest) := by
  rw [map_stringChars, readAtom, readString_escaped]
  rfl

/-! ## Lists, step by step -/

/-- The reader finds the value `x` at the start of its text, whatever comes
behind it; its numbers are read again. -/
def Reads (read : Input → Read Json) (x : Json) : Prop :=
  ∀ rest, EndsNumber rest → read (x.chars.map .char ++ rest) = .ok (x.reread, rest)

theorem nextItem_first {x : Json} (h : x.Fits) (rest : Input) :
    nextItem true (x.chars.map .char ++ rest) = .ok (some (x.chars.map .char ++ rest)) := by
  obtain ⟨c, cs, hcs, hc⟩ := chars_starts h
  have hskip := skipSpace_of_starts hc (cs.map .char ++ rest)
  obtain ⟨-, hclose, hcomma, -⟩ := hc
  rw [hcs, List.map_cons, List.cons_append, nextItem, hskip]
  simp [hclose, hcomma]

theorem nextItem_more {x : Json} (h : x.Fits) (rest : Input) :
    nextItem false (.char ',' :: (x.chars.map .char ++ rest)) =
      .ok (some (x.chars.map .char ++ rest)) := by
  obtain ⟨c, cs, hcs, hc⟩ := chars_starts h
  have hskip := skipSpace_of_starts hc (cs.map .char ++ rest)
  have hcomma : skipSpace (.char ',' :: (x.chars.map .char ++ rest)) =
      .char ',' :: (x.chars.map .char ++ rest) := rfl
  rw [nextItem, hcomma]
  rw [hcs, List.map_cons, List.cons_append]
  simp only [hskip]
  simp [hc.2.1]

/-- What follows an item ends a number. -/
theorem endsNumber_itemsChars (xs : List Json) (rest : Input) :
    EndsNumber ((itemsChars xs).map .char ++ rest) := by
  cases xs <;> exact endsNumber_cons (by decide) (by decide) (by decide) (by decide) _

theorem endsNumber_membersChars (ms : List (String × Json)) (rest : Input) :
    EndsNumber ((membersChars ms).map .char ++ rest) := by
  cases ms <;> exact endsNumber_cons (by decide) (by decide) (by decide) (by decide) _

/-- One item is read, and then the others. -/
theorem readItems_step {item : Input → Read Json} {bound : Nat} (index : Nat) {done : List Json}
    {first : Bool} (hfirst : (index == 0) = first) {input next behind : Input} {x : Json}
    (hnext : nextItem first input = .ok (some next)) (hitem : item next = .ok (x, behind)) :
    readItems item (bound + 1) index done input =
      readItems item bound (index + 1) (x :: done) behind := by
  rw [readItems, hfirst, hnext]
  simp only [bind, Except.bind, hitem, under_ok]

/-- The items behind the first one are read, and the bracket. -/
theorem readItems_itemsChars {item : Input → Read Json} {xs : List Json}
    (hxs : ∀ x ∈ xs, x.Fits ∧ Reads item x) {bound : Nat} (hbound : xs.length < bound)
    (index : Nat) (done : List Json) (rest : Input) :
    readItems item bound (index + 1) done ((itemsChars xs).map .char ++ rest) =
      .ok (done.reverse ++ rereadItems xs, rest) := by
  induction xs generalizing bound index done with
  | nil =>
    cases bound with
    | zero => cases hbound
    | succ bound =>
      rw [readItems, rereadItems, List.append_nil]
      rfl
  | cons x xs ih =>
    cases bound with
    | zero => cases hbound
    | succ bound =>
      obtain ⟨hx, hread⟩ := hxs x List.mem_cons_self
      have hnext := nextItem_more hx ((itemsChars xs).map .char ++ rest)
      have hitem := hread _ (endsNumber_itemsChars xs rest)
      rw [itemsChars, List.cons_append, List.map_cons, List.map_append, List.cons_append,
        List.append_assoc, readItems_step (index + 1) rfl hnext hitem,
        ih (fun y hy => hxs y (List.mem_cons_of_mem _ hy)) (Nat.lt_of_succ_lt_succ hbound),
        List.reverse_cons, List.append_assoc]
      rfl

/-- The items of an array are read, and the bracket. -/
theorem readItems_array {item : Input → Read Json} {x : Json} {xs : List Json}
    (hxs : ∀ y ∈ x :: xs, y.Fits ∧ Reads item y) {bound : Nat}
    (hbound : xs.length + 1 < bound) (rest : Input) :
    readItems item bound 0 [] (x.chars.map .char ++ ((itemsChars xs).map .char ++ rest)) =
      .ok (rereadItems (x :: xs), rest) := by
  cases bound with
  | zero => cases hbound
  | succ bound =>
    obtain ⟨hx, hread⟩ := hxs x List.mem_cons_self
    have hitem := hread _ (endsNumber_itemsChars xs rest)
    rw [readItems_step 0 rfl (nextItem_first hx _) hitem,
      readItems_itemsChars (fun y hy => hxs y (List.mem_cons_of_mem _ hy))
        (Nat.lt_of_succ_lt_succ hbound)]
    rfl

/-! ## Objects, step by step -/

/-- One member is read, and then the others. -/
theorem readMembers_step {value : Input → Read Json} {bound : Nat} {first : Bool}
    {done : List (String × Json)} {input behind : Input} {name : String} {x : Json} {next : Input}
    (hnext : nextMember first input = .ok (some ((escapedChars name).map .char ++ .char '"' ::
      .char ':' :: next)))
    (hvalue : value next = .ok (x, behind)) :
    readMembers value (bound + 1) first done input =
      readMembers value bound false (insert name x done) behind := by
  have hcolon : readColon (.char ':' :: next) = .ok next := rfl
  rw [readMembers, hnext]
  simp only [bind, Except.bind, under_ok, readString_escaped, hcolon, hvalue]

/-- The members behind the first one are read, and the brace. -/
theorem readMembers_membersChars {value : Input → Read Json} {ms : List (String × Json)}
    (hms : ∀ m ∈ ms, Reads value m.2) {bound : Nat} (hbound : ms.length < bound)
    {done : List (String × Json)} (hdone : Increasing (done ++ ms)) (rest : Input) :
    readMembers value bound false done ((membersChars ms).map .char ++ rest) =
      .ok (done ++ rereadMembers ms, rest) := by
  induction ms generalizing bound done with
  | nil =>
    cases bound with
    | zero => cases hbound
    | succ bound =>
      rw [readMembers, rereadMembers, List.append_nil]
      rfl
  | cons m ms ih =>
    obtain ⟨name, x⟩ := m
    cases bound with
    | zero => cases hbound
    | succ bound =>
      have hvalue : value (x.chars.map .char ++ ((membersChars ms).map .char ++ rest)) =
          .ok (x.reread, (membersChars ms).map .char ++ rest) :=
        hms (name, x) List.mem_cons_self _ (endsNumber_membersChars ms rest)
      have hlast : ∀ m ∈ done, m.1 < name :=
        fun m hm => (List.pairwise_append.1 hdone).2.2 m hm (name, x) List.mem_cons_self
      have hsame (y : Json) (ms : List (String × Json)) :
          done ++ (name, y) :: ms = done ++ [(name, y)] ++ ms := by simp
      rw [rereadMembers, hsame]
      have hnext : nextMember false ((membersChars ((name, x) :: ms)).map .char ++ rest) =
          .ok (some ((escapedChars name).map .char ++ .char '"' :: .char ':' ::
            (x.chars.map .char ++ ((membersChars ms).map .char ++ rest)))) := by
        rw [membersChars]
        simp [map_stringChars]
        rfl
      -- the names in front of the others are the same as before
      have hnames : Increasing (done ++ [(name, x.reread)] ++ ms) := by
        rw [increasing_iff] at hdone ⊢
        simpa using hdone
      rw [readMembers_step hnext hvalue, insert_of_last hlast]
      exact ih (fun m hm => hms m (List.mem_cons_of_mem _ hm)) (Nat.lt_of_succ_lt_succ hbound)
        hnames

/-- The members of an object are read, and the brace. -/
theorem readMembers_object {value : Input → Read Json} {name : String} {x : Json}
    {ms : List (String × Json)} (hms : ∀ m ∈ (name, x) :: ms, Reads value m.2) {bound : Nat}
    (hbound : ms.length + 1 < bound) (hordered : Increasing ((name, x) :: ms)) (rest : Input) :
    readMembers value bound true [] ((stringChars name).map .char ++
      .char ':' :: (x.chars.map .char ++ ((membersChars ms).map .char ++ rest))) =
      .ok (rereadMembers ((name, x) :: ms), rest) := by
  cases bound with
  | zero => cases hbound
  | succ bound =>
    have hvalue : value (x.chars.map .char ++ ((membersChars ms).map .char ++ rest)) =
        .ok (x.reread, (membersChars ms).map .char ++ rest) :=
      hms (name, x) List.mem_cons_self _ (endsNumber_membersChars ms rest)
    rw [map_stringChars, readMembers_step rfl hvalue]
    have hnames : Increasing ([(name, x.reread)] ++ ms) := by
      rw [increasing_iff] at hordered ⊢
      exact hordered
    exact readMembers_membersChars (fun m hm => hms m (List.mem_cons_of_mem _ hm))
      (Nat.lt_of_succ_lt_succ hbound) hnames rest

/-! ## Values -/

/-- What starts neither a list nor an object is read as an atom. -/
theorem readValue_of_readAtom {bound depth : Nat} {c : Char} (hc : Starts c) (hlist : c ≠ '[')
    (hobject : c ≠ '{') {input rest : Input} {a : Atom}
    (h : readAtom (.char c :: input) = .ok (a, rest)) :
    readValue bound depth (.char c :: input) = .ok (a.toJson, rest) := by
  have hskip := skipSpace_of_starts hc input
  cases depth <;> simp [readValue, hskip, hlist, hobject, h, Except.map]

/-- Atoms are read off their text. -/
theorem readValue_atom (a : Atom) (h : a.toJson.Fits) {bound depth : Nat} :
    Reads (readValue bound depth) a.toJson := by
  intro rest hrest
  cases a with
  | null => exact readValue_of_readAtom (a := .null) (by decide) (by decide) (by decide) rfl
  | bool b =>
    cases b
    · exact readValue_of_readAtom (a := .bool false) (by decide) (by decide) (by decide) rfl
    · exact readValue_of_readAtom (a := .bool true) (by decide) (by decide) (by decide) rfl
  | number n =>
    have hread := Number.readAtom_chars h hrest
    obtain ⟨c, cs, hcs, hc, hlist, hobject⟩ := numberChars_starts h
    show readValue bound depth (n.chars.map .char ++ rest) = _
    rw [hcs, List.map_cons, List.cons_append] at hread ⊢
    exact readValue_of_readAtom (a := .number n.reread) hc hlist hobject hread
  | string s =>
    exact readValue_of_readAtom (a := .string s) (by decide) (by decide) (by decide)
      (readAtom_string s rest)

/-- An array is read off its text if its items are. -/
theorem readValue_array {bound depth : Nat} {xs : List Json}
    (hxs : ∀ x ∈ xs, x.Fits ∧ Reads (readValue bound depth) x)
    (hbound : (Json.array xs).chars.length ≤ bound) :
    Reads (readValue bound (depth + 1)) (.array xs) := by
  intro rest hrest
  cases xs with
  | nil =>
    cases bound with
    | zero => simp [chars] at hbound
    | succ bound => rfl
  | cons x xs =>
    have hlen := (length_itemsChars xs).1
    have hitems : xs.length + 1 < bound := by
      simp only [chars, List.length_append, List.length_cons] at hbound
      omega
    have hread := readItems_array hxs hitems rest
    rw [chars, List.cons_append, List.map_cons, List.map_append, List.cons_append,
      List.append_assoc, readValue, skipSpace_of_starts (by decide)]
    simp only [hread, Except.map, reread]

/-- An object is read off its text if its values are. -/
theorem readValue_object {bound depth : Nat} {ms : List (String × Json)}
    (hms : ∀ m ∈ ms, Reads (readValue bound depth) m.2) (hordered : Increasing ms)
    (hbound : (Json.object ms).chars.length ≤ bound) :
    Reads (readValue bound (depth + 1)) (.object ms) := by
  intro rest hrest
  cases ms with
  | nil =>
    cases bound with
    | zero => simp [chars] at hbound
    | succ bound => rfl
  | cons m ms =>
    obtain ⟨name, x⟩ := m
    have hlen := (length_membersChars ms).1
    have hmembers : ms.length + 1 < bound := by
      simp only [chars, List.length_append, List.length_cons] at hbound
      omega
    have hread := readMembers_object hms hmembers hordered rest
    simp only [chars, List.cons_append, List.map_cons, List.map_append, List.append_assoc]
    rw [readValue, skipSpace_of_starts (by decide)]
    simp only [hread, Except.map, reread]

/-- **A value is read off its text**, if its numbers fit, it is ordered and not deeper
than allowed, and its text is not longer than the bound. -/
theorem readValue_chars {j : Json} (hfits : j.Fits) (hordered : j.Ordered)
    {depth bound : Nat} (hdepth : j.depth ≤ depth) (hbound : j.chars.length ≤ bound) :
    Reads (readValue bound depth) j := by
  -- the reader counts down how deep it may go, so that is what the induction is on
  induction depth generalizing j with
  | zero =>
    cases j with
    | null => exact readValue_atom .null hfits
    | bool b => exact readValue_atom (.bool b) hfits
    | number n => exact readValue_atom (.number n) hfits
    | string s => exact readValue_atom (.string s) hfits
    | array xs => exact absurd hdepth (Nat.not_succ_le_zero _)
    | object ms => exact absurd hdepth (Nat.not_succ_le_zero _)
  | succ depth ih =>
    cases j with
    | null => exact readValue_atom .null hfits
    | bool b => exact readValue_atom (.bool b) hfits
    | number n => exact readValue_atom (.number n) hfits
    | string s => exact readValue_atom (.string s) hfits
    | array xs =>
      refine readValue_array (fun x hx => ?_) hbound
      have hx₁ := (fitsItems_iff xs).1 hfits x hx
      have hx₂ := (orderedItems_iff xs).1 hordered x hx
      have hx₃ := Nat.le_trans (depth_le_depthItems hx) (Nat.le_of_succ_le_succ hdepth)
      exact ⟨hx₁, ih hx₁ hx₂ hx₃ (Nat.le_trans (length_le_array hx) hbound)⟩
    | object ms =>
      refine readValue_object (fun m hm => ?_) hordered.1 hbound
      have hm₁ := (fitsMembers_iff ms).1 hfits m hm
      have hm₂ := (orderedMembers_iff ms).1 hordered.2 m hm
      have hm₃ := Nat.le_trans (depth_le_depthMembers hm) (Nat.le_of_succ_le_succ hdepth)
      exact ih hm₁ hm₂ hm₃ (Nat.le_trans (length_le_object hm) hbound)

end Json

end EventFeed
