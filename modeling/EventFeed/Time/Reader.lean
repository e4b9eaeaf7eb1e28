import EventFeed.Text.Blank
import EventFeed.Time.Timestamp

/-!
# EventFeed.Time.Reader

Reading moments, leniently.  The form is that of the printer, and beyond
it the reader accepts

* `t` or a space between date and time;
* blanks before every number, and before the marks inside date and time;
* one digit where the printer writes two, and up to four for a year
  without a sign (with a sign, any number of them);
* a fraction of any length, cut after nine digits;
* the offset as `Z`, `z`, `UTC` in any case, or a sign with two digits of
  hours and two of minutes, colons and blanks between them free;
* blanks before the offset and at the end.
-/

namespace EventFeed

namespace Timestamp

/-! ## Parts -/

/-- A natural number of one to `most` digits. -/
def readDigits? (most : Nat) (s : List Char) : Option (Nat × List Char) :=
  let ds := (s.take most).takeWhile Char.isDigit
  if ds = [] then none else some (Nat.ofDigitChars 10 ds 0, s.drop ds.length)

/-- A number of one or two digits of at most `limit`, blanks before it. -/
def readPair? (limit : Nat) (s : List Char) : Option (Nat × List Char) :=
  (readDigits? 2 (trimStart s)).filter (·.1 ≤ limit)

/-- A mark, blanks before it. -/
def readMark? (mark : Char) (s : List Char) : Option (List Char) :=
  match trimStart s with
  | c :: rest => if c = mark then some rest else none
  | [] => none

/-- A year, blanks before it. -/
def readYear? (s : List Char) : Option (Int × List Char) :=
  match trimStart s with
  | '-' :: rest => (readDigits? rest.length rest).map fun (n, rest) => (-(n : Int), rest)
  | '+' :: rest => (readDigits? rest.length rest).map fun (n, rest) => ((n : Int), rest)
  | s => (readDigits? 4 s).map fun (n, rest) => ((n : Int), rest)

/-- A date. -/
def readDate? (s : List Char) : Option (Date × List Char) := do
  let (year, s) ← readYear? s
  let s ← readMark? '-' s
  let (month, s) ← readPair? 12 s
  let s ← readMark? '-' s
  let (day, s) ← readPair? 31 s
  return (← Date.of? year month day, s)

/-- What stands between date and time. -/
def readSeparator? : List Char → Option (List Char)
  | 'T' :: rest => some rest
  | 't' :: rest => some rest
  | ' ' :: rest => some rest
  | _ => none

/-- The fraction of a second in nanoseconds; zero if there is none. -/
def readFraction? : List Char → Option (Nat × List Char)
  | '.' :: rest =>
    let ds := rest.takeWhile Char.isDigit
    let kept := ds.take 9
    if ds = [] then none
    else some (Nat.ofDigitChars 10 kept 0 * Nat.pow 10 (9 - kept.length), rest.drop ds.length)
  | rest => some (0, rest)

/-- A number of exactly two digits. -/
def readTwo? : List Char → Option (Nat × List Char)
  | a :: b :: rest =>
    if a.isDigit && b.isDigit then some (Nat.ofDigitChars 10 [a, b] 0, rest) else none
  | _ => none

/-- The sign of an offset: is it negative?  The minus sign proper is
accepted beside the hyphen. -/
def readSign? : List Char → Option (Bool × List Char)
  | '+' :: rest => some (false, rest)
  | '-' :: rest => some (true, rest)
  | '\u2212' :: rest => some (true, rest)
  | _ => none

/-- An offset in hours and minutes. -/
def readClockOffset? (s : List Char) : Option (Int × List Char) := do
  let (negative, s) ← readSign? s
  let (hours, s) ← readTwo? s
  let (minutes, s) ← readTwo? (s.dropWhile fun c => c == ':' || isBlank c)
  let total := hours * 60 + minutes
  if minutes < 60 ∧ total < 1440 then return (if negative then -(total : Int) else total, s)
  else none

/-- Universal time by name. -/
def readUtc? : List Char → Option (List Char)
  | a :: b :: c :: rest =>
    if a.toUpper = 'U' ∧ b.toUpper = 'T' ∧ c.toUpper = 'C' then some rest else none
  | _ => none

/-- An offset, in minutes ahead of universal time. -/
def readOffset? (s : List Char) : Option (Int × List Char) :=
  match readUtc? s with
  | some rest => some (0, rest)
  | none =>
    match s with
    | 'Z' :: rest => some (0, rest)
    | 'z' :: rest => some (0, rest)
    | s => readClockOffset? s

/-! ## The whole -/

/-- The moment that the characters spell. -/
def ofChars? (s : List Char) : Option Timestamp := do
  let (date, s) ← readDate? s
  let s ← readSeparator? s
  let (hour, s) ← readPair? 23 s
  let s ← readMark? ':' s
  let (minute, s) ← readPair? 59 s
  let s ← readMark? ':' s
  let (second, s) ← readPair? 60 s
  let (nanos, s) ← readFraction? s
  let (offset, s) ← readOffset? (trimStart s)
  if trimStart s = [] then
    ofLocal? offset date (minuteOfDay (hour * 60 + minute)) (Fin.ofNat 61 second)
      (Fin.ofNat 1000000000 nanos)
  else none

/-- The moment that a text spells. -/
def ofText? (s : String) : Option Timestamp := ofChars? s.toList

/-! ## Samples -/

/-- An offset moves the moment into the year before. -/
example : (ofText? "2024-01-01 00:30:60.1234567899 +01:00").map text =
    some "2023-12-31T23:30:60.123456789Z" := by decide +kernel

end Timestamp

end EventFeed
