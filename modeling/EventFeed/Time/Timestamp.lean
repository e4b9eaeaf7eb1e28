import EventFeed.Text.Numeral
import EventFeed.Time.Date

/-!
# EventFeed.Time.Timestamp

Moments of universal time, to the nanosecond.  An offset from universal
time is a whole number of minutes, so a moment keeps the minute of its day
as one number, and its seconds apart: they run to 60, the leap second.

A moment is written `YYYY-MM-DDTHH:MM:SS`, then a fraction of three, six
or nine digits if it needs one, and the offset.  Years that do not have
four digits carry a sign.
-/

namespace EventFeed

/-- A moment of universal time. -/
structure Timestamp where
  date : Date
  /-- The minute of the day. -/
  minute : Fin 1440
  /-- The second of the minute; 60 is a leap second. -/
  second : Fin 61
  /-- The nanosecond of the second. -/
  nanos : Fin 1000000000
deriving Repr, DecidableEq, Inhabited

namespace Timestamp

/-! ## Writing -/

/-- The year, with its sign unless it has four digits. -/
def yearChars (year : Int) : List Char :=
  if 0 ≤ year ∧ year ≤ 9999 then paddedDigits 4 year.toNat
  else (if year < 0 then '-' else '+') :: paddedDigits 4 year.natAbs

/-- The fraction of the second, in groups of three digits, as many as it
needs. -/
def fractionChars (nanos : Nat) : List Char :=
  if nanos = 0 then []
  else if nanos % 1000000 = 0 then '.' :: paddedDigits 3 (nanos / 1000000)
  else if nanos % 1000 = 0 then '.' :: paddedDigits 6 (nanos / 1000)
  else '.' :: paddedDigits 9 nanos

/-- Date and time without the offset. -/
def localChars (t : Timestamp) : List Char :=
  yearChars t.date.year ++ '-' :: paddedDigits 2 t.date.month ++
    '-' :: paddedDigits 2 t.date.day ++ 'T' :: paddedDigits 2 (t.minute.val / 60) ++
    ':' :: paddedDigits 2 (t.minute.val % 60) ++ ':' :: paddedDigits 2 t.second.val ++
    fractionChars t.nanos.val

/-- The moment as messages carry it: its offset is written `Z`. -/
def chars (t : Timestamp) : List Char := t.localChars ++ ['Z']

/-- The moment as messages carry it. -/
def text (t : Timestamp) : String := String.ofList t.chars

/-- The moment with its offset in numbers. -/
def numericText (t : Timestamp) : String :=
  String.ofList (t.localChars ++ ['+', '0', '0', ':', '0', '0'])

/-! ## Offsets -/

/-- The minute of the day that comes `n` minutes after midnight. -/
def minuteOfDay (n : Nat) : Fin 1440 := Fin.ofNat 1440 n

/-- The moment at which a clock that is `offset` minutes ahead of
universal time shows the date, minute, second and fraction given.  There
is none beyond the ends of the calendar. -/
def ofLocal? (offset : Int) (date : Date) (minute : Fin 1440) (second : Fin 61)
    (nanos : Fin 1000000000) : Option Timestamp :=
  let m : Int := minute.val - offset
  let date? :=
    if m < 0 then date.prev?
    else if 1440 ≤ m then date.next?
    else some date
  date?.map fun d => ⟨d, minuteOfDay (m % 1440).toNat, second, nanos⟩

/-- A clock that shows universal time is right. -/
theorem ofLocal?_zero (t : Timestamp) :
    ofLocal? 0 t.date t.minute t.second t.nanos = some t := by
  have hlt := t.minute.isLt
  have h₁ : ¬((t.minute.val : Int) - 0 < 0) := by omega
  have h₂ : ¬(1440 ≤ (t.minute.val : Int) - 0) := by omega
  have h₃ : (((t.minute.val : Int) - 0) % 1440).toNat = t.minute.val := by omega
  have h₄ : minuteOfDay t.minute.val = t.minute := Fin.ext (Nat.mod_eq_of_lt hlt)
  simp only [ofLocal?, h₁, h₂, if_false, h₃, h₄, Option.map_some]

end Timestamp

end EventFeed
