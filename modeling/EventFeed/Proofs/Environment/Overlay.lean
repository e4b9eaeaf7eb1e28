import EventFeed.Proofs.Environment.Dotenv

/-!
# EventFeed.Proofs.Environment.Overlay

A `.env` file as an overlay of the environment.

The lines of a file are assignments (`Dotenv.assignments`), up to the first line that
is not well formed.  Loading the file extends the environment by them
(`Environment.bytes?_of_load`): a variable that can be read as text stays as it is, any
other one that is assigned has the first value it is given, and nothing else changes
(`Environment.bytes?_extend`).  All names that are assigned are then set, so loading
the file again changes nothing (`Environment.exists_reload`).

Environments are compared by what their variables are, `bytes?`, since a variable that
is not looked at any more may be left in the list.
-/

namespace EventFeed

namespace Environment

variable {e f : Environment} {name : String}

/-! ## What is read depends on the variables only -/

theorem text?_congr (h : e.bytes? = f.bytes?) : e.text? = f.text? := by
  funext name
  rw [text?, text?, h]

theorem lookUp?_congr (h : e.bytes? = f.bytes?) : e.lookUp? = f.lookUp? := by
  funext name
  simp only [lookUp?, text?_congr h, h]

/-! ## Variables without zeros -/

/-- No variable has a zero in it, as no variable of a process has. -/
def HasNoZero (e : Environment) : Prop := ∀ name value, e.bytes? name = some value → 0 ∉ value

/-- Enough of it: nothing in the list has one. -/
theorem hasNoZero_of_entries (h : ∀ v ∈ e.entries, 0 ∉ v.2) : e.HasNoZero := by
  intro name value hvalue
  obtain ⟨before, after, hentries, -⟩ := List.lookup_eq_some_iff.1 hvalue
  exact h (name, value) (by rw [hentries]; simp)

/-- Bytes without zeros spell no zero. -/
theorem not_mem_of_decode? {bytes : List UInt8} {s : String} (h : Utf8.decode? bytes = some s)
    (hbytes : 0 ∉ bytes) : '\x00' ∉ s.toList := by
  rwa [Utf8.decode?_eq_some_iff.1 h, Utf8.zero_mem_encode_iff] at hbytes

/-- So no text that is looked up has one. -/
theorem HasNoZero.lookUp? (h : e.HasNoZero) (name : String) :
    '\x00' ∉ ((e.lookUp? name).getD "").toList := by
  cases hlook : e.lookUp? name with
  | none => exact List.not_mem_nil
  | some s =>
    rw [Environment.lookUp?] at hlook
    split at hlook
    · obtain ⟨bytes, hbytes, hs⟩ := Option.bind_eq_some_iff.1 hlook
      exact not_mem_of_decode? hs (h _ _ hbytes)
    · obtain ⟨bytes, hbytes, hlook⟩ := Option.bind_eq_some_iff.1 hlook
      obtain ⟨rest, hrest, hs⟩ := Option.bind_eq_some_iff.1 hlook
      rw [List.isPrefixOf?_eq_some_iff_append_eq] at hrest
      refine not_mem_of_decode? hs fun hmem => h _ _ hbytes ?_
      rw [← hrest]
      exact List.mem_append_right _ hmem

theorem HasNoZero.set (h : e.HasNoZero) {text : String} (htext : '\x00' ∉ text.toList) :
    (e.set name (Utf8.encode text)).HasNoZero := by
  intro other value hvalue
  rw [bytes?_set] at hvalue
  split at hvalue
  · cases hvalue
    exact mt Utf8.zero_mem_encode_iff.1 htext
  · exact h _ _ hvalue

/-! ## Extending -/

/-- The environment with assignments to variables that cannot be read as text.  The
first assignment of a name counts. -/
def extend (e : Environment) (assigned : List (String × String)) : Environment :=
  ⟨(assigned.filter fun a => (e.text? a.1).isNone).map (fun a => (a.1, Utf8.encode a.2)) ++
    e.entries⟩

/-- **A variable of the extended environment** is as it was if it could be read as text;
else it has the first value that it is given; else it is as it was. -/
theorem bytes?_extend (e : Environment) (assigned : List (String × String)) (name : String) :
    (e.extend assigned).bytes? name =
      if (e.text? name).isSome then e.bytes? name
      else ((assigned.lookup name).map Utf8.encode).or (e.bytes? name) := by
  have hassigned : ((assigned.filter fun a => (e.text? a.1).isNone).map
      fun a => (a.1, Utf8.encode a.2)).lookup name =
      if (e.text? name).isSome then none else (assigned.lookup name).map Utf8.encode := by
    induction assigned with
    | nil => simp
    | cons a rest ih =>
      obtain ⟨other, value⟩ := a
      rw [List.filter_cons, List.lookup_cons]
      by_cases hother : name = other
      · subst hother
        cases htext : e.text? name with
        | none => simp
        | some s => simpa [htext] using ih
      · have hbeq : (name == other) = false := beq_false_of_ne hother
        rw [hbeq]
        dsimp only
        split
        · rw [List.map_cons, List.lookup_cons, hbeq]
          exact ih
        · exact ih
  rw [bytes?, extend, List.lookup_append, hassigned]
  split
  · rfl
  · rfl

/-- As text, it is what it was, or else what it is given first. -/
theorem text?_extend (e : Environment) (assigned : List (String × String)) (name : String) :
    (e.extend assigned).text? name = (e.text? name).or (assigned.lookup name) := by
  rw [text?, bytes?_extend]
  cases htext : e.text? name with
  | some s =>
    rw [Option.isSome_some, if_pos rfl]
    exact htext
  | none =>
    rw [Option.isSome_none, if_neg (by decide)]
    cases assigned.lookup name with
    | some s => exact Utf8.decode?_encode s
    | none => exact htext

/-- What is given to variables that have a text does not count. -/
theorem extend_of_isSome {assigned : List (String × String)}
    (h : ∀ a ∈ assigned, (e.text? a.1).isSome) : e.extend assigned = e := by
  have hnone : assigned.filter (fun a => (e.text? a.1).isNone) = [] :=
    List.filter_eq_nil_iff.2 fun a ha => by simp [Option.isSome_iff_ne_none.1 (h a ha)]
  rw [extend, hnone]
  rfl

/-- One more assignment changes nothing if its variable has a text. -/
theorem bytes?_extend_append_of_isSome {earlier : List (String × String)}
    (h : ((e.extend earlier).text? name).isSome) (value : String) :
    (e.extend (earlier ++ [(name, value)])).bytes? = (e.extend earlier).bytes? := by
  funext other
  rw [bytes?_extend, bytes?_extend, List.lookup_append, List.lookup_cons]
  split
  · rfl
  next hnone =>
  cases hearlier : earlier.lookup other with
  | some v => rfl
  | none =>
    have hother : other ≠ name := by
      rintro rfl
      rw [text?_extend, hearlier, Option.or_none] at h
      exact hnone h
    rw [beq_false_of_ne hother]
    rfl

/-- Else it sets its variable. -/
theorem bytes?_extend_append_of_eq_none {earlier : List (String × String)}
    (h : (e.extend earlier).text? name = none) (value : String) :
    (e.extend (earlier ++ [(name, value)])).bytes? =
      ((e.extend earlier).set name (Utf8.encode value)).bytes? := by
  rw [text?_extend, Option.or_eq_none_iff] at h
  obtain ⟨htext, hearlier⟩ := h
  funext other
  rw [bytes?_set, bytes?_extend, bytes?_extend, List.lookup_append, List.lookup_cons]
  by_cases hother : other = name
  · subst hother
    simp [htext, hearlier]
  · rw [if_neg hother, beq_false_of_ne hother, List.lookup_nil, Option.or_none]

end Environment

namespace Dotenv

/-- The assignments that lines make, up to the first line that is not well formed.  A
variable in a value stands for what it is in the environment, or else for what a line
before has assigned to it; `earlier` are those assignments. -/
def assignments (e : Environment) :
    (earlier : List (String × String)) → List (List Char) → List (String × String)
  | _, [] => []
  | earlier, line :: lines =>
    match readLine (fun name => ((e.extend earlier).lookUp? name).getD "") line with
    | .malformed => []
    | .nothing => assignments e earlier lines
    | .assignment name value =>
      (name, value) :: assignments e (earlier ++ [(name, value)]) lines

/-- The assignments of a file. -/
def assignmentsOf (e : Environment) (file : List UInt8) : List (String × String) :=
  assignments e [] (linesOf file)

/-- Which variables are assigned does not depend on what they were. -/
theorem map_fst_assignments (e f : Environment) (earlier earlier' : List (String × String))
    (lines : List (List Char)) :
    (assignments e earlier lines).map Prod.fst = (assignments f earlier' lines).map Prod.fst := by
  induction lines generalizing earlier earlier' with
  | nil => rfl
  | cons line lines ih =>
    have houtline := outline_readLine (fun name => ((e.extend earlier).lookUp? name).getD "")
      (fun name => ((f.extend earlier').lookUp? name).getD "") line
    rw [assignments, assignments]
    generalize readLine _ line = said at houtline ⊢
    generalize readLine _ line = said' at houtline ⊢
    cases said with
    | nothing =>
      cases said' with
      | nothing => exact ih _ _
      | assignment | malformed => cases houtline
    | malformed =>
      cases said' with
      | malformed => rfl
      | nothing | assignment => cases houtline
    | assignment name value =>
      cases said' with
      | assignment name' value' =>
        obtain rfl : name = name' := by injection houtline
        exact congrArg (name :: ·) (ih _ _)
      | nothing | malformed => cases houtline

end Dotenv

namespace Environment

variable {e f g : Environment}

/-- **Applying lines** to an environment that earlier assignments have extended extends it
by those that the lines make. -/
theorem bytes?_of_applyLines {lines : List (List Char)} {earlier : List (String × String)}
    (hf : f.bytes? = (e.extend earlier).bytes?) (h : f.applyLines lines = .ok g) :
    g.bytes? = (e.extend (earlier ++ Dotenv.assignments e earlier lines)).bytes? := by
  induction lines generalizing f earlier with
  | nil =>
    rw [Dotenv.assignments, List.append_nil, ← Except.ok.inj h]
    exact hf
  | cons line lines ih =>
    rw [applyLines] at h
    rw [Dotenv.assignments, ← lookUp?_congr hf]
    cases hread : Dotenv.readLine (fun name => (f.lookUp? name).getD "") line with
    | malformed =>
      rw [hread] at h
      dsimp only
      rw [List.append_nil, ← Except.ok.inj h]
      exact hf
    | nothing =>
      rw [hread] at h
      exact ih hf h
    | assignment name value =>
      rw [hread] at h
      dsimp only at h ⊢
      rw [List.append_cons]
      have htext := congrFun (text?_congr hf) name
      split at h
      · next hset =>
        rw [htext] at hset
        exact ih (hf.trans (bytes?_extend_append_of_isSome hset value).symm) h
      next hset =>
      split at h
      · cases h
      refine ih ?_ h
      rw [htext, Option.not_isSome_iff_eq_none] at hset
      rw [bytes?_extend_append_of_eq_none hset value]
      funext other
      rw [bytes?_set, bytes?_set, hf]

/-- Without zeros they can be applied, and leave none. -/
theorem exists_applyLines {lines : List (List Char)} (hlines : ∀ line ∈ lines, '\x00' ∉ line)
    (hzero : f.HasNoZero) : ∃ g, f.applyLines lines = .ok g ∧ g.HasNoZero := by
  induction lines generalizing f with
  | nil => exact ⟨f, rfl, hzero⟩
  | cons line lines ih =>
    obtain ⟨hline, hlines⟩ := List.forall_mem_cons.1 hlines
    rw [applyLines]
    cases hread : Dotenv.readLine (fun name => (f.lookUp? name).getD "") line with
    | malformed => exact ⟨f, rfl, hzero⟩
    | nothing => exact ih hlines hzero
    | assignment name value =>
      dsimp only
      split
      · exact ih hlines hzero
      have hvalue : '\x00' ∉ value.toList := Dotenv.not_mem_readLine hzero.lookUp? hline hread
      rw [if_neg hvalue]
      exact ih hlines (hzero.set hvalue)

/-- **Loading a file**, if that succeeds, extends the environment by its assignments; and
without a file there are none. -/
theorem bytes?_of_load {file : Option (List UInt8)} (h : e.load file = .ok f) :
    f.bytes? = (e.extend (file.elim [] (Dotenv.assignmentsOf e))).bytes? := by
  have hnothing : e.bytes? = (e.extend []).bytes? := rfl
  cases file with
  | none =>
    rw [← Except.ok.inj h]
    exact hnothing
  | some file => exact bytes?_of_applyLines hnothing h

/-- It succeeds if there are no zeros. -/
theorem exists_load {file : List UInt8} (hfile : 0 ∉ file) (he : e.HasNoZero) :
    ∃ g, e.load (some file) = .ok g ∧ g.HasNoZero ∧
      g.bytes? = (e.extend (Dotenv.assignmentsOf e file)).bytes? := by
  obtain ⟨g, happly, hg⟩ := exists_applyLines (Dotenv.not_mem_linesOf hfile) he
  have hload : e.load (some file) = .ok g := happly
  have hbytes := bytes?_of_load hload
  exact ⟨g, hload, hg, hbytes⟩

/-- What could be read as text is still read so. -/
theorem text?_of_load {file : Option (List UInt8)} {name text : String} (h : e.load file = .ok f)
    (hset : e.text? name = some text) : f.text? name = some text := by
  rw [text?_congr (bytes?_of_load h), text?_extend, hset]
  rfl

/-- **Loading it again** changes nothing, since all that it assigns is set by then. -/
theorem exists_reload {file : List UInt8} (hfile : 0 ∉ file) (hf : f.HasNoZero)
    (hloaded : f.bytes? = (e.extend (Dotenv.assignmentsOf e file)).bytes?) :
    ∃ g, f.load (some file) = .ok g ∧ g.HasNoZero ∧ g.bytes? = f.bytes? := by
  obtain ⟨g, hload, hg, hbytes⟩ := exists_load hfile hf
  refine ⟨g, hload, hg, ?_⟩
  have hset : ∀ a ∈ Dotenv.assignmentsOf f file, (f.text? a.1).isSome := by
    intro a ha
    have hname : a.1 ∈ (Dotenv.assignmentsOf e file).map Prod.fst := by
      rw [Dotenv.assignmentsOf, Dotenv.map_fst_assignments e f [] []]
      exact List.mem_map_of_mem ha
    obtain ⟨b, hb, hba⟩ := List.mem_map.1 hname
    have hfound : ((Dotenv.assignmentsOf e file).lookup a.1).isSome :=
      List.lookup_isSome_iff.2 ⟨b, hb, by simp [hba]⟩
    rw [text?_congr hloaded, text?_extend, Option.isSome_or, hfound, Bool.or_true]
  rw [hbytes, extend_of_isSome hset]

end Environment

end EventFeed
