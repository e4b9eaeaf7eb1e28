import EventFeed.Text.Utf8

/-!
# EventFeed.Environment.Basic

The environment of a process: variables, each a name and a string of
bytes.  A variable whose bytes are not text cannot be read as text, and
most readers treat it as if it were not there.

A process gets its variables as texts `NAME=value`.  Nothing there marks
which equality sign ends the name, so whoever looks for `A=B` finds the
rest of a text `A=B=C`.
-/

namespace EventFeed

/-- The variables of a process. -/
structure Environment where
  entries : List (String × List UInt8)
deriving Repr, DecidableEq, Inhabited

namespace Environment

/-- The bytes of a variable. -/
def bytes? (e : Environment) (name : String) : Option (List UInt8) := e.entries.lookup name

/-- A variable as text. -/
def text? (e : Environment) (name : String) : Option String := (e.bytes? name).bind Utf8.decode?

/-- What follows behind `name=` in the text of a variable.  A name that has
an equality sign itself reaches into the value. -/
def lookUp? (e : Environment) (name : String) : Option String :=
  let cs := name.toList
  match cs.dropWhile (· != '=') with
  | [] => e.text? name
  | _ :: more =>
    (e.bytes? (String.ofList (cs.takeWhile (· != '=')))).bind fun value =>
      ((Utf8.encode (String.ofList more ++ "=")).isPrefixOf? value).bind Utf8.decode?

/-- The environment with a variable set. -/
def set (e : Environment) (name : String) (value : List UInt8) : Environment :=
  ⟨(name, value) :: e.entries.filter fun v => v.1 ≠ name⟩

/-- A variable that is set has its value, and no other variable changes. -/
theorem bytes?_set (e : Environment) (name : String) (value : List UInt8) (other : String) :
    (e.set name value).bytes? other = if other = name then some value else e.bytes? other := by
  simp only [bytes?, set, List.lookup_cons]
  by_cases h : other = name
  · simp [h]
  · have hbeq : (other == name) = false := by simp [h]
    simp only [hbeq, h, if_false]
    generalize e.entries = vs
    induction vs with
    | nil => rfl
    | cons v rest ih =>
      obtain ⟨k, x⟩ := v
      by_cases hk : k = name
      · subst hk
        rw [List.filter_cons_of_neg (by simp), List.lookup_cons, hbeq, ih]
      · rw [List.filter_cons_of_pos (by simp [hk]), List.lookup_cons, List.lookup_cons, ih]

end Environment

end EventFeed
