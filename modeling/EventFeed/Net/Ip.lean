import EventFeed.Text.Numeral

/-!
# EventFeed.Net.Ip

Addresses of the Internet Protocol, and their text.

* An IPv4 address is four decimal numbers with dots between them.
* An IPv6 address is eight groups of hexadecimal digits with colons between
  them.  One run of zero groups may be left out, which shows as two colons,
  and the last two groups may be written as an IPv4 address.

The readers take the front of a text and give back the rest of it.
-/

namespace EventFeed

/-! ## IPv4 -/

/-- An IPv4 address. -/
structure Ipv4 where
  a : UInt8
  b : UInt8
  c : UInt8
  d : UInt8
deriving Repr, DecidableEq, Inhabited

/-- Step over one character. -/
def expect? (c : Char) : List Char → Option (List Char)
  | x :: rest => if x = c then some rest else none
  | [] => none

namespace Ipv4

/-- Read one of the four numbers: one to three digits, at most 255, and no
zero in front of other digits. -/
def readOctet? (s : List Char) : Option (UInt8 × List Char) :=
  let digits := s.takeWhile Char.isDigit
  let n := Nat.ofDigitChars 10 digits 0
  if digits ≠ [] ∧ digits.length ≤ 3 ∧ n ≤ 255 ∧ (digits.head? = some '0' → digits.length = 1) then
    some (n.toUInt8, s.dropWhile Char.isDigit)
  else none

/-- Read an address. -/
def read? (s : List Char) : Option (Ipv4 × List Char) := do
  let (a, s) ← readOctet? s
  let (b, s) ← readOctet? (← expect? '.' s)
  let (c, s) ← readOctet? (← expect? '.' s)
  let (d, s) ← readOctet? (← expect? '.' s)
  return (⟨a, b, c, d⟩, s)

/-- The four numbers. -/
def octets (x : Ipv4) : List UInt8 := [x.a, x.b, x.c, x.d]

/-- The text of the address. -/
def text (x : Ipv4) : String :=
  ".".intercalate (x.octets.map fun n => String.ofList (Nat.toDigits 10 n.toNat))

end Ipv4

/-! ## IPv6 -/

/-- An IPv6 address: eight groups of sixteen bits. -/
structure Ipv6 where
  groups : Vector UInt16 8
deriving Repr, DecidableEq, Inhabited

namespace Ipv6

/-- Two octets make a group. -/
def groupOf (high low : UInt8) : UInt16 := high.toUInt16 * 256 + low.toUInt16

/-- The address with the groups `front` at its beginning, `back` at its end
and zeros between them. -/
def ofEnds (front back : List UInt16) : Ipv6 :=
  let groups := front ++ List.replicate (8 - front.length - back.length) 0 ++ back
  ⟨Vector.ofFn fun i => groups.getD i.val 0⟩

/-- Read a group: one to four hexadecimal digits. -/
def readGroup? (s : List Char) : Option (UInt16 × List Char) :=
  let digits := s.takeWhile fun c => (hexDigit? c).isSome
  if digits ≠ [] ∧ digits.length ≤ 4 then
    let n := digits.foldl (fun n c => n * 16 + (hexDigit? c).getD 0) 0
    some (n.toUInt16, s.drop digits.length)
  else none

/-- Read up to `room` groups with colons between them, as many as there
are; `first` says that none comes before them.  An IPv4 address stands for
two groups and ends the row.  The flag that is returned tells of such an
end. -/
def readGroups : (room : Nat) → (first : Bool) → List Char → List UInt16 × Bool × List Char
  | 0, _, s => ([], false, s)
  | room + 1, first, s =>
    match if first then some s else expect? ':' s with
    | none => ([], false, s)
    | some r =>
      match if room = 0 then none else Ipv4.read? r with
      | some (x, r) => ([groupOf x.a x.b, groupOf x.c x.d], true, r)
      | none =>
        match readGroup? r with
        | some (g, r) =>
          let (gs, embedded, r) := readGroups room false r
          (g :: gs, embedded, r)
        | none => ([], false, s)

/-- Read an address.  Nothing may follow an embedded IPv4 address, and two
colons stand for at least one group. -/
def read? (s : List Char) : Option (Ipv6 × List Char) := do
  let (front, embedded, s) := readGroups 8 true s
  if front.length = 8 then return (ofEnds front [], s)
  if embedded then none
  let s ← expect? ':' (← expect? ':' s)
  let (back, _, s) := readGroups (7 - front.length) true s
  return (ofEnds front back, s)

/-- The address that a text spells. -/
def ofText? (s : List Char) : Option Ipv6 :=
  match read? s with
  | some (x, []) => some x
  | _ => none

/-- The longest run of zeros, and the first one of that length: where it
starts and how long it is.  `start` and `length` tell of the run that ends
before the groups, `best` of the longest so far. -/
def longestZeros (index start length : Nat) (best : Nat × Nat) : List UInt16 → Nat × Nat
  | [] => best
  | g :: gs =>
    if g = 0 then
      let start := if length = 0 then index else start
      let best := if best.2 < length + 1 then (start, length + 1) else best
      longestZeros (index + 1) start (length + 1) best gs
    else longestZeros (index + 1) 0 0 best gs

/-- Groups with colons between them. -/
def groupsText (gs : List UInt16) : String :=
  ":".intercalate (gs.map fun g => String.ofList (Nat.toDigits 16 g.toNat))

/-- The IPv4 address that the last two groups embed. -/
def embedded (x : Ipv6) : Ipv4 :=
  let g := x.groups[6].toNat
  let h := x.groups[7].toNat
  ⟨(g / 256).toUInt8, g.toUInt8, (h / 256).toUInt8, h.toUInt8⟩

/-- The text of the address.  Its longest run of zeros is left out, if it
has more than one of them, and an embedded IPv4 address is written as
one. -/
def text (x : Ipv6) : String :=
  let gs := x.groups.toList
  if gs.take 6 = [0, 0, 0, 0, 0, 0xFFFF] then "::ffff:" ++ x.embedded.text
  else
    let (start, length) := longestZeros 0 0 0 (0, 0) gs
    if 1 < length then groupsText (gs.take start) ++ "::" ++ groupsText (gs.drop (start + length))
    else groupsText gs

example : (ofText? ['1', ':', ':']).map text = some "1::" := by decide +kernel

example : ofText? [':', ':', ':'] = none := by decide +kernel

example : (ofText? "::ffff:1.2.3.4".toList).map text = some "::ffff:1.2.3.4" := by decide +kernel

/-- Of two runs of one length the first is left out. -/
example : (ofText? "1:0:0:2:0:0:3:4".toList).map text = some "1::2:0:0:3:4" := by decide +kernel

end Ipv6

end EventFeed
