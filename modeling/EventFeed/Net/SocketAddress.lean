import EventFeed.Net.Ip

/-!
# EventFeed.Net.SocketAddress

Where a server listens: an address and a port.  The address is written
before the port, with a colon between them; an IPv6 address stands in
brackets, and may name its zone by a number behind a percent sign.
-/

namespace EventFeed

/-- An address and a port. -/
inductive SocketAddress where
  | v4 (ip : Ipv4) (port : UInt16)
  | v6 (ip : Ipv6) (zone : UInt32) (port : UInt16)
deriving Repr, DecidableEq, Inhabited

namespace SocketAddress

/-- Read a number of at most `limit`: one or more digits. -/
def readNumber? (limit : Nat) (s : List Char) : Option (Nat × List Char) :=
  let digits := s.takeWhile Char.isDigit
  let n := Nat.ofDigitChars 10 digits 0
  if digits ≠ [] ∧ n ≤ limit then some (n, s.dropWhile Char.isDigit) else none

/-- Read the port, which ends the text. -/
def readPort? (s : List Char) : Option UInt16 := do
  match ← readNumber? 65535 (← expect? ':' s) with
  | (n, []) => some n.toUInt16
  | _ => none

/-- Read the zone, zero if none is named. -/
def readZone? (s : List Char) : Option (UInt32 × List Char) :=
  match s with
  | '%' :: r => (readNumber? 4294967295 r).map fun (n, r) => (n.toUInt32, r)
  | s => some (0, s)

/-- The address and port that a text spells. -/
def ofText? (s : List Char) : Option SocketAddress := do
  match s with
  | '[' :: r =>
    let (ip, r) ← Ipv6.read? r
    let (zone, r) ← readZone? r
    return .v6 ip zone (← readPort? (← expect? ']' r))
  | s =>
    let (ip, r) ← Ipv4.read? s
    return .v4 ip (← readPort? r)

/-- The port. -/
def port : SocketAddress → UInt16
  | .v4 _ port => port
  | .v6 _ _ port => port

/-- A number in decimal digits. -/
def numberText (n : Nat) : String := String.ofList (Nat.toDigits 10 n)

/-- The text of the address and port.  Zone zero does not show. -/
def text : SocketAddress → String
  | .v4 ip port => ip.text ++ ":" ++ numberText port.toNat
  | .v6 ip zone port =>
    "[" ++ ip.text ++ (if zone = 0 then "" else "%" ++ numberText zone.toNat) ++ "]:" ++
      numberText port.toNat

example : (ofText? "0.0.0.0:05000".toList).map text = some "0.0.0.0:5000" := by decide +kernel

example : (ofText? "[::1%0]:1".toList).map text = some "[::1]:1" := by decide +kernel

end SocketAddress

end EventFeed
