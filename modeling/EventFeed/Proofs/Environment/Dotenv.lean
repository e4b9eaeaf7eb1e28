import EventFeed.Environment.Dotenv
import EventFeed.Proofs.Text.Trim
import EventFeed.Proofs.Text.Utf8
import Mathlib.Tactic.SplitIfs

/-!
# EventFeed.Proofs.Environment.Dotenv

Lines of `.env` files, apart from the values that variables have.

Whether a line is well formed, and whose variable it sets, does not depend on any
variable (`Dotenv.outline_readLine`): what stands for a variable can be any text, and
reading goes on behind it.  And a zero gets into a value only from the file or from
another variable (`Dotenv.not_mem_readLine`), so a file without zeros can always be
loaded.
-/

namespace EventFeed

namespace Dotenv

variable {look look' : String → String}

/-! ## What does not depend on variables -/

/-- What a line says, without the value it gives. -/
def Line.outline : Line → Line
  | .assignment name _ => .assignment name ""
  | line => line

/-- Whether a value can be read does not depend on variables. -/
theorem isSome_readValue (look look' : String → String) (state : ValueState)
    (done done' : List Char) (s : List Char) :
    (readValue look state done s).isSome = (readValue look' state done' s).isSome := by
  induction s generalizing state done done' with
  | nil => rcases state with _ | _ | _ | (_ | _) | ⟨_ | _, n⟩ | ⟨w, n⟩ | _ <;> rfl
  | cons c s ih =>
    cases state with
    | plain | weak | strong | name w n | braced w n =>
      simp only [readValue]
      split_ifs <;> exact ih _ _ _
    | escaped w =>
      simp only [readValue]
      split
      · exact ih _ _ _
      · rfl
    | «over» =>
      simp only [readValue]
      split_ifs
      · exact ih _ _ _
      · rfl
      · rfl

/-- **Whether a line is well formed**, and whose variable it sets, does not depend on
variables. -/
theorem outline_readLine (look look' : String → String) (line : List Char) :
    (readLine look line).outline = (readLine look' line).outline := by
  simp only [readLine]
  split_ifs
  · rfl
  split
  · rfl
  next name rest _ =>
  split_ifs
  · rfl
  have hsome := isSome_readValue look look' .plain [] [] (trimStart rest)
  generalize readValue look .plain [] (trimStart rest) = value at hsome ⊢
  generalize readValue look' .plain [] (trimStart rest) = value' at hsome ⊢
  cases value with
  | none =>
    cases value' with
    | none => rfl
    | some _ => cases hsome
  | some _ =>
    cases value' with
    | none => cases hsome
    | some _ => rfl

/-! ## Zeros -/

/-- What a backslash stands before is no zero, unless it is one. -/
theorem ne_of_unescape? {c x : Char} (hc : '\x00' ≠ c) (h : unescape? c = some x) :
    '\x00' ≠ x := by
  rw [unescape?] at h
  split_ifs at h
  · cases h
    decide
  · cases h
    exact hc

/-- A zero gets into a value only from the text or from a variable. -/
theorem not_mem_readValue (hlook : ∀ name, '\x00' ∉ (look name).toList) {state : ValueState}
    {done s value : List Char} (hdone : '\x00' ∉ done) (hs : '\x00' ∉ s)
    (h : readValue look state done s = some value) : '\x00' ∉ value := by
  induction s generalizing state done with
  | nil =>
    have hread : '\x00' ∉ done.reverse := fun hmem => hdone (List.mem_reverse.1 hmem)
    have hnamed (n : List Char) :
        '\x00' ∉ done.reverse ++ (look (String.ofList n.reverse)).toList :=
      fun hmem => (List.mem_append.1 hmem).elim hread (hlook _)
    rcases state with _ | _ | _ | (_ | _) | ⟨_ | _, n⟩ | ⟨w, n⟩ | _ <;> cases h
    · exact hread
    · exact hread
    · exact hnamed n
    · exact hread
  | cons c s ih =>
    rw [List.mem_cons, not_or] at hs
    obtain ⟨hc, hs⟩ := hs
    have hpush {x : Char} {front : List Char} (hx : '\x00' ≠ x) (hfront : '\x00' ∉ front) :
        '\x00' ∉ x :: front := List.not_mem_cons_of_ne_of_not_mem hx hfront
    have hnamed (n : List Char) :
        '\x00' ∉ (look (String.ofList n.reverse)).toList.reverse ++ done :=
      fun hmem => (List.mem_append.1 hmem).elim (fun h => hlook _ (List.mem_reverse.1 h)) hdone
    cases state with
    | plain | weak | strong =>
      simp only [readValue] at h
      split_ifs at h
      any_goals exact ih hdone hs h
      exact ih (hpush hc hdone) hs h
    | escaped w =>
      simp only [readValue] at h
      split at h
      · next x hx => exact ih (hpush (ne_of_unescape? hc hx) hdone) hs h
      · cases h
    | name w n =>
      simp only [readValue] at h
      split_ifs at h
      · exact ih hdone hs h
      · exact ih hdone hs h
      · exact ih (hnamed n) hs h
      · exact ih (hpush hc (hnamed n)) hs h
    | braced w n =>
      simp only [readValue] at h
      split_ifs at h
      · exact ih (hnamed n) hs h
      · exact ih hdone hs h
    | «over» =>
      simp only [readValue] at h
      split_ifs at h
      · exact ih hdone hs h
      · cases h
        exact fun hmem => hdone (List.mem_reverse.1 hmem)

/-- What follows a name is the end of the text. -/
theorem suffix_of_readName? {s rest : List Char} {name : String}
    (h : readName? s = some (name, rest)) : rest <:+ s := by
  rw [readName?] at h
  split_ifs at h
  cases h
  exact (List.dropWhile_suffix _).trans (List.dropWhile_suffix _)

/-- What follows the equality sign is the end of the text. -/
theorem suffix_of_readTarget? {s rest : List Char} {name : String}
    (h : readTarget? s = some (name, rest)) : rest <:+ s := by
  obtain ⟨⟨first, behind⟩, hfirst, h⟩ := Option.bind_eq_some_iff.1 h
  have hbehind : behind <:+ s := suffix_of_readName? hfirst
  dsimp only at h
  split at h
  · cases h
    exact (List.suffix_cons _ _).trans hbehind
  split_ifs at h
  obtain ⟨⟨second, more⟩, hsecond, h⟩ := Option.bind_eq_some_iff.1 h
  have hmore : more <:+ behind := suffix_of_readName? hsecond
  split at h
  · next hmark =>
    cases hmark
    cases h
    exact (List.suffix_cons _ _).trans (hmore.trans hbehind)
  · cases h

/-- **A value has no zero**, if neither its line nor a variable has one. -/
theorem not_mem_readLine (hlook : ∀ name, '\x00' ∉ (look name).toList) {line : List Char}
    (hline : '\x00' ∉ line) {name value : String}
    (h : readLine look line = .assignment name value) : '\x00' ∉ value.toList := by
  simp only [readLine] at h
  split_ifs at h
  split at h
  · cases h
  next target rest htarget =>
  have hrest : '\x00' ∉ trimStart rest := fun hmem => hline <|
    (List.rdropWhile_prefix isBlank line).subset <| (List.dropWhile_suffix _).subset <|
      (suffix_of_readTarget? htarget).subset <| (List.dropWhile_suffix _).subset hmem
  split_ifs at h
  · cases h
    exact List.not_mem_nil
  split at h
  · next text hread =>
    cases h
    rw [String.toList_ofList]
    exact not_mem_readValue hlook List.not_mem_nil hrest hread
  · cases h

/-! ## Lines -/

/-- The lines of a file have nothing that the file has not. -/
theorem subset_of_mem_physicalLines {bytes line : List UInt8} (h : line ∈ physicalLines bytes) :
    line ⊆ bytes := by
  induction bytes generalizing line with
  | nil => cases h
  | cons b rest ih =>
    rw [physicalLines] at h
    split at h
    · rcases List.mem_cons.1 h with rfl | h
      · simp
      · exact List.subset_cons_of_subset b (ih h)
    · split at h
      · obtain rfl := List.mem_singleton.1 h
        simp
      · next first lines hlines =>
        rw [hlines] at ih
        rcases List.mem_cons.1 h with rfl | h
        · exact List.cons_subset_cons b (ih List.mem_cons_self)
        · exact List.subset_cons_of_subset b (ih (List.mem_cons_of_mem _ h))

/-- What stands before a comment is the beginning of the text. -/
theorem prefix_of_scan (state : LineState) (s : List Char) : (scan state s).1 <+: s := by
  induction s generalizing state with
  | nil => exact List.prefix_refl _
  | cons c rest ih =>
    rw [scan]
    split
    · exact List.nil_prefix
    · exact (List.cons_prefix_cons).2 ⟨rfl, ih _⟩

/-- The line end is at the end. -/
theorem prefix_withoutLineEnd (s : List Char) : withoutLineEnd s <+: s := by
  rw [withoutLineEnd]
  split
  · next rest h =>
    rw [← List.reverse_suffix, List.reverse_reverse, h]
    exact List.suffix_append ['\n', '\r'] rest
  · next rest _ h =>
    rw [← List.reverse_suffix, List.reverse_reverse, h]
    exact List.suffix_cons _ _
  · exact List.prefix_refl _

/-- Bytes without zeros are read as characters without them. -/
theorem not_mem_chars? {bytes : List UInt8} (hbytes : 0 ∉ bytes) {cs : List Char}
    (h : Utf8.chars? (Utf8.symbols bytes) = some cs) : '\x00' ∉ cs := by
  have hdecode : Utf8.decode? bytes = some (String.ofList cs) := by
    rw [Utf8.decode?, h]
    rfl
  rwa [Utf8.decode?_eq_some_iff.1 hdecode, Utf8.zero_mem_encode_iff, String.toList_ofList] at hbytes

/-- The lines as they are read have no zeros, if the file has none. -/
theorem not_mem_logicalLines {lines : List (List UInt8)} (hlines : ∀ bytes ∈ lines, 0 ∉ bytes)
    {open_ : List Char} (hopen : '\x00' ∉ open_) (state : LineState) :
    ∀ line ∈ logicalLines lines open_ state, '\x00' ∉ line := by
  induction lines generalizing open_ state with
  | nil => simp [logicalLines]
  | cons bytes lines ih =>
    obtain ⟨hbytes, hlines⟩ := List.forall_mem_cons.1 hlines
    have hnone : '\x00' ∉ ([] : List Char) := List.not_mem_nil
    rw [logicalLines]
    split
    · simp
    next more hmore =>
    have hjoined : '\x00' ∉ open_ ++ more := fun hmem =>
      (List.mem_append.1 hmem).elim hopen (not_mem_chars? hbytes hmore)
    split
    · exact List.forall_mem_cons.2 ⟨hnone, ih hlines hnone _⟩
    have hkept := prefix_of_scan state more
    split
    · next kept hscan =>
      rw [hscan] at hkept
      refine List.forall_mem_cons.2 ⟨fun hmem => hjoined ?_, ih hlines hnone _⟩
      exact (List.prefix_append_right_inj open_).2 hkept |>.subset hmem
    · exact List.forall_mem_cons.2 ⟨fun hmem => hjoined ((prefix_withoutLineEnd _).subset hmem),
        ih hlines hnone _⟩
    · exact ih hlines hjoined _

/-- **The lines of a file have no zeros**, if the file has none. -/
theorem not_mem_linesOf {file : List UInt8} (h : 0 ∉ file) :
    ∀ line ∈ linesOf file, '\x00' ∉ line := by
  refine not_mem_logicalLines (fun bytes hbytes hmem => h ?_) List.not_mem_nil _
  have hmem := subset_of_mem_physicalLines hbytes hmem
  split at hmem
  · simp [hmem]
  · exact hmem

end Dotenv

end EventFeed
