import EventFeed.Number.Binary64

/-!
# EventFeed.Json.Basic

JSON values.  An object lists its members in increasing order of their
names, each name once, so that equal objects are equal values; `insert`
keeps that form and lets a later member replace an earlier one of its
name.

A number is an integer as long as it fits 64 bits, signed or unsigned;
every other number is a finite floating-point number.
-/

namespace EventFeed

/-- A JSON number. -/
inductive Number where
  | integer (n : Int)
  | float (x : Binary64)
deriving Repr, DecidableEq, Inhabited

/-- A JSON value. -/
inductive Json where
  | null
  | bool (b : Bool)
  | number (n : Number)
  | string (s : String)
  | array (items : List Json)
  | object (members : List (String × Json))
deriving Repr, BEq, Inhabited

namespace Number

/-- Does the integer fit 64 bits, signed or unsigned? -/
def FitsInt (n : Int) : Prop := -0x8000000000000000 ≤ n ∧ n ≤ 0xffffffffffffffff

instance (n : Int) : Decidable (FitsInt n) := inferInstanceAs (Decidable (_ ∧ _))

end Number

namespace Json

/-! ## Objects -/

/-- Put a member in its place; a member of the same name is replaced. -/
def insert (name : String) (value : Json) : List (String × Json) → List (String × Json)
  | [] => [(name, value)]
  | (k, v) :: rest =>
    if name < k then (name, value) :: (k, v) :: rest
    else if name = k then (name, value) :: rest
    else (k, v) :: insert name value rest

/-- The member of a name, if the object has it. -/
def lookup? (name : String) : List (String × Json) → Option Json
  | [] => none
  | (k, v) :: rest => if k = name then some v else lookup? name rest

/-- The member of a name; nothing for a value that is no object. -/
def get? (name : String) : Json → Option Json
  | .object members => lookup? name members
  | _ => none

/-- A natural number as a value. -/
def ofNat (n : Nat) : Json := .number (.integer n)

/-- Is the value `null`? -/
def isNull : Json → Bool
  | .null => true
  | _ => false

/-! ## Shape -/

mutual

/-- How many containers lie around the deepest place of the value. -/
def depth : Json → Nat
  | .array items => depthItems items + 1
  | .object members => depthMembers members + 1
  | _ => 0

/-- The greatest depth among the items. -/
def depthItems : List Json → Nat
  | [] => 0
  | x :: xs => max x.depth (depthItems xs)

/-- The greatest depth among the members. -/
def depthMembers : List (String × Json) → Nat
  | [] => 0
  | (_, x) :: xs => max x.depth (depthMembers xs)

end

mutual

/-- Every number in the value is an integer of 64 bits. -/
def AllIntegers : Json → Prop
  | .number (.integer n) => Number.FitsInt n
  | .number (.float _) => False
  | .array items => AllIntegersItems items
  | .object members => AllIntegersMembers members
  | _ => True

/-- Every number in the items is an integer of 64 bits. -/
def AllIntegersItems : List Json → Prop
  | [] => True
  | x :: xs => x.AllIntegers ∧ AllIntegersItems xs

/-- Every number in the members is an integer of 64 bits. -/
def AllIntegersMembers : List (String × Json) → Prop
  | [] => True
  | (_, x) :: xs => x.AllIntegers ∧ AllIntegersMembers xs

end

/-- The names of the members increase strictly. -/
def Increasing (members : List (String × Json)) : Prop :=
  members.Pairwise fun a b => a.1 < b.1

mutual

/-- Every object in the value lists its members in increasing order. -/
def Ordered : Json → Prop
  | .array items => OrderedItems items
  | .object members => Increasing members ∧ OrderedMembers members
  | _ => True

/-- Every object in the items is ordered. -/
def OrderedItems : List Json → Prop
  | [] => True
  | x :: xs => x.Ordered ∧ OrderedItems xs

/-- Every object in the members is ordered. -/
def OrderedMembers : List (String × Json) → Prop
  | [] => True
  | (_, x) :: xs => x.Ordered ∧ OrderedMembers xs

end

end Json

end EventFeed
