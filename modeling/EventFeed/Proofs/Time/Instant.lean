import EventFeed.Proofs.Time.RoundTrip
import Mathlib.Data.List.Basic

/-!
# EventFeed.Proofs.Time.Instant

Which instant a text denotes.  Days are counted (`Date.ordinal`), so that the day
after is one more, and a clock that is ahead of universal time shows an instant
that comes so much earlier (`Timestamp.Clock.instant`).  A moment that is read is
the instant that its text denotes, whatever the offset in it, and at the ends of
days, months and years as well (`Timestamp.denoted?_of_ofText?`).
-/

namespace EventFeed

/-! ## Days -/

namespace Date

/-- How many days the first months of the year have. -/
def daysThrough (year : Int) : Nat → Nat
  | 0 => 0
  | month + 1 => daysThrough year month + daysInMonth year (month + 1)

/-- How many days come before the year, counted from the first of January of the
year 1. -/
def daysBefore (year : Int) : Int :=
  365 * (year - 1) + (year - 1) / 4 - (year - 1) / 100 + (year - 1) / 400

/-- The number of the day of a year, a month and a day. -/
def dayNumber (year : Int) (month day : Nat) : Int :=
  daysBefore year + daysThrough year (month - 1) + day

/-- The number of the day. -/
def ordinal (d : Date) : Int := dayNumber d.year d.month d.day

example : epoch.ordinal = 719163 := by decide

theorem daysBefore_succ (year : Int) :
    daysBefore (year + 1) = daysBefore year + daysThrough year 12 := by
  have hyear : daysThrough year 12 = if isLeapYear year then 366 else 365 := by
    simp only [daysThrough, daysInMonth]
    cases isLeapYear year <;> rfl
  rw [hyear, daysBefore, daysBefore]
  cases hleap : isLeapYear year with
  | true =>
    simp only [isLeapYear, Bool.and_eq_true, Bool.or_eq_true, beq_iff_eq, bne_iff_ne] at hleap
    simp only [if_true]
    omega
  | false =>
    simp only [isLeapYear, Bool.and_eq_false_iff, Bool.or_eq_false_iff, beq_eq_false_iff_ne,
      bne_eq_false_iff_eq] at hleap
    simp only [Bool.false_eq_true, if_false]
    omega

/-- The first day of a month comes after the last one of the month before. -/
theorem dayNumber_month {year : Int} {month : Nat} (h : 1 ≤ month) :
    dayNumber year (month + 1) 1 = dayNumber year month (daysInMonth year month) + 1 := by
  obtain ⟨before, rfl⟩ : ∃ before, month = before + 1 := ⟨month - 1, by omega⟩
  simp only [dayNumber, Nat.add_sub_cancel, daysThrough]
  omega

/-- The first day of a year comes after the last one of the year before. -/
theorem dayNumber_year (year : Int) :
    dayNumber (year + 1) 1 1 = dayNumber year 12 (daysInMonth year 12) + 1 := by
  have hsplit : daysThrough year 12 = daysThrough year 11 + daysInMonth year 12 := rfl
  have hnone : daysThrough (year + 1) 0 = 0 := rfl
  simp only [dayNumber, daysBefore_succ, hsplit, Nat.sub_self, hnone, Nat.reduceSub]
  omega

theorem ordinal_of? {year : Int} {month day : Nat} {d : Date} (h : of? year month day = some d) :
    d.ordinal = dayNumber year month day := by
  rw [of?] at h
  split at h
  · cases h
    rfl
  · cases h

/-- **The day after has the next number.** -/
theorem ordinal_next? {d e : Date} (h : d.next? = some e) : e.ordinal = d.ordinal + 1 := by
  obtain ⟨-, hpos, hmonth, -, hday⟩ := d.valid
  rw [next?] at h
  split at h
  · rw [ordinal_of? h, ordinal, dayNumber, dayNumber]
    omega
  · have hlast : d.day = daysInMonth d.year d.month := by omega
    split at h
    · rw [ordinal_of? h, ordinal, dayNumber_month hpos, hlast]
    · have hdecember : d.month = 12 := by omega
      rw [ordinal_of? h, ordinal, dayNumber_year, hlast, hdecember]

/-- **The day before has the number before.** -/
theorem ordinal_prev? {d e : Date} (h : d.prev? = some e) : e.ordinal = d.ordinal - 1 := by
  obtain ⟨-, hpos, -, hday, -⟩ := d.valid
  rw [prev?] at h
  split at h
  · rw [ordinal_of? h, ordinal, dayNumber, dayNumber]
    omega
  · have hfirst : d.day = 1 := by omega
    split at h
    · have hmonth : dayNumber d.year (d.month - 1 + 1) 1 =
          dayNumber d.year (d.month - 1) (daysInMonth d.year (d.month - 1)) + 1 :=
        dayNumber_month (by omega)
      rw [Nat.sub_add_cancel hpos] at hmonth
      rw [ordinal_of? h, ordinal, hfirst, hmonth]
      omega
    · have hjanuary : d.month = 1 := by omega
      have hyear := dayNumber_year (d.year - 1)
      have hdecember : daysInMonth (d.year - 1) 12 = 31 := rfl
      rw [Int.sub_add_cancel, hdecember] at hyear
      rw [ordinal_of? h, ordinal, hfirst, hjanuary, hyear]
      omega

end Date

/-! ## Instants -/

/-- An instant: the minutes of universal time, and the second within the minute,
so that a leap second is an instant of its own. -/
structure Instant where
  minutes : Int
  second : Fin 61
  nanos : Fin 1000000000
deriving DecidableEq

namespace Timestamp

/-- The instant of a moment. -/
def instant (t : Timestamp) : Instant := ⟨t.date.ordinal * 1440 + t.minute.val, t.second, t.nanos⟩

/-- The instant at which a clock shows this: it is so much ahead. -/
def Clock.instant (c : Clock) : Instant :=
  ⟨c.date.ordinal * 1440 + c.minute.val - c.offset, c.second, c.nanos⟩

/-- **A clock shows its moment**, if it is off by less than a day. -/
theorem instant_of_moment? {c : Clock} (hbehind : -1440 < c.offset) (hahead : c.offset < 1440)
    {t : Timestamp} (h : c.moment? = some t) : t.instant = c.instant := by
  have hminute := c.minute.isLt
  rw [Clock.moment?, ofLocal?] at h
  obtain ⟨d, hdate, rfl⟩ := Option.map_eq_some_iff.1 h
  have hclock (n : Nat) (hn : n < 1440) : (minuteOfDay n).val = n := Nat.mod_eq_of_lt hn
  have hlt : (((c.minute.val : Int) - c.offset) % 1440).toNat < 1440 := by omega
  simp only [instant, Clock.instant, Instant.mk.injEq, and_true, hclock _ hlt]
  split at hdate
  · have hday := Date.ordinal_prev? hdate
    omega
  · split at hdate
    · have hday := Date.ordinal_next? hdate
      omega
    · cases hdate
      omega

/-! ## Offsets -/

theorem offset_of_readClockOffset? {s rest : List Char} {offset : Int}
    (h : readClockOffset? s = some (offset, rest)) : -1440 < offset ∧ offset < 1440 := by
  rw [readClockOffset?] at h
  obtain ⟨⟨negative, _⟩, -, h⟩ := Option.bind_eq_some_iff.1 h
  obtain ⟨⟨hours, _⟩, -, h⟩ := Option.bind_eq_some_iff.1 h
  obtain ⟨⟨minutes, _⟩, -, h⟩ := Option.bind_eq_some_iff.1 h
  dsimp only at h
  split at h
  · next hrange =>
    cases h
    cases negative <;> simp <;> omega
  · cases h

/-- Offsets are less than a day. -/
theorem offset_of_readOffset? {s rest : List Char} {offset : Int}
    (h : readOffset? s = some (offset, rest)) : -1440 < offset ∧ offset < 1440 := by
  unfold readOffset? at h
  split at h
  · cases h
    decide
  · split at h
    · cases h
      decide
    · cases h
      decide
    · exact offset_of_readClockOffset? h

theorem offset_of_clock? {s : List Char} {c : Clock} (h : clock? s = some c) :
    -1440 < c.offset ∧ c.offset < 1440 := by
  rw [clock?] at h
  obtain ⟨_, -, h⟩ := Option.bind_eq_some_iff.1 h
  obtain ⟨_, -, h⟩ := Option.bind_eq_some_iff.1 h
  obtain ⟨_, -, h⟩ := Option.bind_eq_some_iff.1 h
  obtain ⟨_, -, h⟩ := Option.bind_eq_some_iff.1 h
  obtain ⟨_, -, h⟩ := Option.bind_eq_some_iff.1 h
  obtain ⟨_, -, h⟩ := Option.bind_eq_some_iff.1 h
  obtain ⟨_, -, h⟩ := Option.bind_eq_some_iff.1 h
  obtain ⟨_, -, h⟩ := Option.bind_eq_some_iff.1 h
  obtain ⟨⟨offset, rest⟩, hoffset, h⟩ := Option.bind_eq_some_iff.1 h
  dsimp only at h
  split at h
  · cases h
    exact offset_of_readOffset? hoffset
  · cases h

/-! ## Texts -/

/-- The instant that a text denotes: that at which the clock it describes shows
what the text says, to the nanosecond. -/
def denoted? (s : String) : Option Instant := (clock? s.toList).map Clock.instant

/-- **What is read is what is denoted.** -/
theorem denoted?_of_ofText? {s : String} {t : Timestamp} (h : ofText? s = some t) :
    denoted? s = some t.instant := by
  rw [ofText?, ofChars?_eq] at h
  obtain ⟨c, hclock, h⟩ := Option.bind_eq_some_iff.1 h
  obtain ⟨hbehind, hahead⟩ := offset_of_clock? hclock
  rw [denoted?, hclock, Option.map_some, instant_of_moment? hbehind hahead h]

/-- An offset as it is written: its sign, its hours and its minutes. -/
def offsetChars (negative : Bool) (hours minutes : Nat) : List Char :=
  (if negative then '-' else '+') :: (paddedDigits 2 hours ++ ':' :: paddedDigits 2 minutes)

/-- So many minutes. -/
def offsetMinutes (negative : Bool) (hours minutes : Nat) : Int :=
  if negative then -(hours * 60 + minutes : Nat) else (hours * 60 + minutes : Nat)

theorem exists_paddedDigits_two {n : Nat} (h : n < 100) :
    ∃ a b, paddedDigits 2 n = [a, b] ∧ a.isDigit = true ∧ b.isDigit = true := by
  have hlen : (paddedDigits 2 n).length = 2 := length_paddedDigits (by decide) h
  obtain ⟨a, b, hab⟩ := List.length_eq_two.1 hlen
  have hdigits : ∀ c ∈ paddedDigits 2 n, c.isDigit = true := isDigit_paddedDigits
  exact ⟨a, b, hab, hdigits a (by simp [hab]), hdigits b (by simp [hab])⟩

theorem readTwo?_paddedDigits {n : Nat} (h : n < 100) (rest : List Char) :
    readTwo? (paddedDigits 2 n ++ rest) = some (n, rest) := by
  obtain ⟨a, b, hab, ha, hb⟩ := exists_paddedDigits_two h
  have hvalue : Nat.ofDigitChars 10 [a, b] 0 = n := by rw [← hab, ofDigitChars_paddedDigits]
  rw [hab]
  simp only [List.cons_append, List.nil_append, readTwo?, ha, hb, Bool.and_self, if_true, hvalue]

/-- Colons and blanks are passed over in front of two digits. -/
theorem dropWhile_paddedDigits {n : Nat} (h : n < 100) :
    (':' :: paddedDigits 2 n).dropWhile (fun c => c == ':' || isBlank c) = paddedDigits 2 n := by
  obtain ⟨a, b, hab, ha, -⟩ := exists_paddedDigits_two h
  have hcolon : a ≠ ':' := by
    rintro rfl
    cases ha
  rw [hab]
  simp [isBlank_of_isDigit ha, hcolon]

theorem readUtc?_eq_none {c : Char} (h : c.toUpper ≠ 'U') (s : List Char) :
    readUtc? (c :: s) = none := by
  rcases s with _ | ⟨a, _ | ⟨b, rest⟩⟩
  · rfl
  · rfl
  · simp [readUtc?, h]

/-- Every offset is read as it is written. -/
theorem readOffset?_offsetChars (negative : Bool) {hours minutes : Nat} (hhours : hours < 24)
    (hminutes : minutes < 60) :
    readOffset? (offsetChars negative hours minutes) =
      some (offsetMinutes negative hours minutes, []) := by
  have hsecond := readTwo?_paddedDigits (by omega : minutes < 100) []
  rw [List.append_nil] at hsecond
  have hclock : readClockOffset? (offsetChars negative hours minutes) =
      some (offsetMinutes negative hours minutes, []) := by
    have hsign : readSign? (offsetChars negative hours minutes) =
        some (negative, paddedDigits 2 hours ++ ':' :: paddedDigits 2 minutes) := by
      cases negative <;> rfl
    rw [readClockOffset?, hsign]
    simp only [bind, Option.bind, readTwo?_paddedDigits (by omega : hours < 100),
      dropWhile_paddedDigits (by omega : minutes < 100), hsecond]
    rw [if_pos ⟨hminutes, by omega⟩]
    cases negative <;> rfl
  cases negative with
  | true =>
    unfold readOffset?
    rw [offsetChars, if_pos rfl, readUtc?_eq_none (by decide)]
    exact hclock
  | false =>
    unfold readOffset?
    rw [offsetChars, if_neg Bool.false_ne_true, readUtc?_eq_none (by decide)]
    exact hclock

/-- **A date and a time with an offset** denote the instant that comes so much
earlier than universal time shows them. -/
theorem denoted?_offset (t : Timestamp) (negative : Bool) {hours minutes : Nat}
    (hhours : hours < 24) (hminutes : minutes < 60) :
    denoted? (String.ofList (t.localChars ++ offsetChars negative hours minutes)) =
      some ⟨t.date.ordinal * 1440 + t.minute.val - offsetMinutes negative hours minutes,
        t.second, t.nanos⟩ := by
  have hsign : ∃ c, offsetChars negative hours minutes =
      c :: (paddedDigits 2 hours ++ ':' :: paddedDigits 2 minutes) ∧ c.isDigit = false ∧ c ≠ '.' ∧
        isBlank c = false := by
    cases negative
    · exact ⟨'+', rfl, by decide, by decide, by decide⟩
    · exact ⟨'-', rfl, by decide, by decide, by decide⟩
  obtain ⟨c, hchars, hdigit, hpoint, hblank⟩ := hsign
  have hoffset := readOffset?_offsetChars negative hhours hminutes
  rw [hchars, ← trimStart_of_visible hblank] at hoffset
  rw [denoted?, String.toList_ofList, hchars, clock?_localChars t hdigit hpoint hoffset]
  rfl

end Timestamp

end EventFeed
