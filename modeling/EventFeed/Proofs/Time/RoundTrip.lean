import EventFeed.Proofs.Text.Numeral
import EventFeed.Time.Reader
import Mathlib.Algebra.Ring.Nat

/-!
# EventFeed.Proofs.Time.RoundTrip

Moments are read as they are written (`Timestamp.ofText?_text`).  Each part
of the text has digits of a width that the reader expects, or ends at a
character that is no digit; no blank stands anywhere.
-/

namespace EventFeed

/-! ## Digits -/

theorem isBlank_of_isDigit {c : Char} (h : c.isDigit = true) : isBlank c = false := by
  have hall : ∀ n : Fin 58, 48 ≤ n.val → isBlank (Char.ofNat n.val) = false := by decide
  have hrange : 48 ≤ c.toNat ∧ c.toNat ≤ 57 := by
    simp only [Char.isDigit, Bool.and_eq_true, decide_eq_true_eq] at h
    exact h
  have hc := hall ⟨c.toNat, by omega⟩ hrange.1
  rwa [Char.ofNat_toNat] at hc

theorem isDigit_paddedDigits {width n : Nat} : ∀ c ∈ paddedDigits width n, c.isDigit = true := by
  intro c hc
  simp only [paddedDigits, List.mem_append, List.mem_replicate] at hc
  rcases hc with ⟨-, rfl⟩ | hc
  · rfl
  · exact Nat.isDigit_of_mem_toDigits (by decide) (by decide) hc

theorem length_paddedDigits {width n : Nat} (hwidth : 0 < width) (h : n < 10 ^ width) :
    (paddedDigits width n).length = width := by
  have hle := (Nat.length_toDigits_le_iff (by decide) hwidth).2 h
  simp only [paddedDigits, List.length_append, List.length_replicate]
  omega

/-- The digits in front of something else are what the text starts with. -/
theorem trimStart_of_visible {c : Char} (h : isBlank c = false) (rest : List Char) :
    trimStart (c :: rest) = c :: rest := by
  simp [trimStart, h]

/-- There are no blanks in front of digits. -/
theorem trimStart_digits {ds rest : List Char} (hds : ∀ c ∈ ds, c.isDigit = true) (hne : ds ≠ []) :
    trimStart (ds ++ rest) = ds ++ rest := by
  cases ds with
  | nil => exact absurd rfl hne
  | cons d ds => exact trimStart_of_visible (isBlank_of_isDigit (hds d List.mem_cons_self)) _

namespace Timestamp

/-- Digits are read if they are as many as allowed, or are fewer and stand
in front of something else. -/
theorem readDigits?_append {most : Nat} {ds rest : List Char} (hds : ∀ c ∈ ds, c.isDigit = true)
    (hne : ds ≠ []) (hle : ds.length ≤ most)
    (hrest : ds.length < most → ∀ c ∈ rest.head?, c.isDigit = false) :
    readDigits? most (ds ++ rest) = some (Nat.ofDigitChars 10 ds 0, rest) := by
  have htake : ((ds ++ rest).take most).takeWhile Char.isDigit = ds := by
    rw [List.take_append, List.take_of_length_le hle]
    refine takeWhile_append_stop hds fun c hc => ?_
    by_cases hlt : ds.length < most
    · refine hrest hlt c ?_
      rwa [List.head?_take, if_neg (by omega)] at hc
    · have hzero : most - ds.length = 0 := by omega
      rw [hzero] at hc
      cases hc
  simp only [readDigits?, htake, hne, if_false, List.drop_left]

theorem paddedDigits_ne_nil {width : Nat} (hwidth : 0 < width) (n : Nat) :
    paddedDigits width n ≠ [] := by
  intro h
  have hle := le_length_paddedDigits width n
  rw [h] at hle
  exact absurd hle (Nat.not_le.2 hwidth)

/-- Padded digits are read as their number. -/
theorem readDigits?_paddedDigits {most width n : Nat} (hwidth : 0 < width) {rest : List Char}
    (hle : (paddedDigits width n).length ≤ most)
    (hrest : (paddedDigits width n).length < most → ∀ c ∈ rest.head?, c.isDigit = false) :
    readDigits? most (paddedDigits width n ++ rest) = some (n, rest) := by
  rw [readDigits?_append isDigit_paddedDigits (paddedDigits_ne_nil hwidth n) hle hrest,
    ofDigitChars_paddedDigits]

/-- Two digits are read as the number that they pad. -/
theorem readPair?_paddedDigits {limit n : Nat} (hn : n < 100) (hle : n ≤ limit) (rest : List Char) :
    readPair? limit (paddedDigits 2 n ++ rest) = some (n, rest) := by
  have hlen : (paddedDigits 2 n).length = 2 := length_paddedDigits (by decide) hn
  rw [readPair?, trimStart_digits isDigit_paddedDigits (paddedDigits_ne_nil (by decide) n),
    readDigits?_paddedDigits (by decide) (Nat.le_of_eq hlen) (fun hlt => by omega)]
  simp [hle]

theorem readMark?_cons {mark : Char} (h : isBlank mark = false) (rest : List Char) :
    readMark? mark (mark :: rest) = some rest := by
  simp [readMark?, trimStart_of_visible h]

/-- A year of four digits is read without a sign. -/
theorem readYear?_unsigned {n : Nat} (h : n < 10000) (rest : List Char) :
    readYear? (paddedDigits 4 n ++ rest) = some ((n : Int), rest) := by
  have hlen : (paddedDigits 4 n).length = 4 := length_paddedDigits (by decide) h
  have hread : readDigits? 4 (paddedDigits 4 n ++ rest) = some (n, rest) :=
    readDigits?_paddedDigits (by decide) (Nat.le_of_eq hlen) (fun hlt => by omega)
  have hdigits : ∀ c ∈ paddedDigits 4 n, c.isDigit = true := isDigit_paddedDigits
  rw [readYear?, trimStart_digits hdigits (paddedDigits_ne_nil (by decide) n)]
  cases hd : paddedDigits 4 n with
  | nil => exact absurd hd (paddedDigits_ne_nil (by decide) n)
  | cons d ds =>
    rw [hd] at hread hdigits
    have hdigit := hdigits d List.mem_cons_self
    have hminus : d ≠ '-' := by
      rintro rfl
      cases hdigit
    have hplus : d ≠ '+' := by
      rintro rfl
      cases hdigit
    rw [List.cons_append] at hread ⊢
    split
    · next heq => exact absurd (List.cons.inj heq).1 hminus
    · next heq => exact absurd (List.cons.inj heq).1 hplus
    · rw [hread]
      rfl

/-- Any other year is read with its sign, in front of something that is no
digit. -/
theorem readYear?_signed (negative : Bool) (n : Nat) {rest : List Char}
    (hrest : ∀ c ∈ rest.head?, c.isDigit = false) :
    readYear? ((if negative then '-' else '+') :: (paddedDigits 4 n ++ rest)) =
      some (if negative then -(n : Int) else n, rest) := by
  have hread : readDigits? (paddedDigits 4 n ++ rest).length (paddedDigits 4 n ++ rest) =
      some (n, rest) :=
    readDigits?_paddedDigits (by decide) (by simp) fun _ => hrest
  cases negative with
  | true =>
    rw [if_pos rfl, if_pos rfl, readYear?, trimStart_of_visible (by decide)]
    simp only [hread, Option.map_some]
  | false =>
    rw [if_neg Bool.false_ne_true, if_neg Bool.false_ne_true, readYear?,
      trimStart_of_visible (by decide)]
    simp only [hread, Option.map_some]

/-- Every year is read in front of something that is no digit. -/
theorem readYear?_yearChars (year : Int) {rest : List Char}
    (hrest : ∀ c ∈ rest.head?, c.isDigit = false) :
    readYear? (yearChars year ++ rest) = some (year, rest) := by
  rw [yearChars]
  split
  · next h =>
    have hback : ((year.toNat : Nat) : Int) = year := Int.toNat_of_nonneg h.1
    rw [readYear?_unsigned (by omega), hback]
  · next h =>
    have hread := readYear?_signed (decide (year < 0)) year.natAbs hrest
    have hback :
        (if decide (year < 0) = true then -(year.natAbs : Int) else year.natAbs) = year := by
      split
      · next hneg =>
        have := of_decide_eq_true hneg
        omega
      · next hpos =>
        have : ¬year < 0 := by simpa using hpos
        omega
    rw [hback] at hread
    simpa using hread

/-! ## Parts -/

/-- A date is read in front of something that is no digit. -/
theorem readDate?_chars (d : Date) (rest : List Char) :
    readDate? (yearChars d.year ++ '-' :: (paddedDigits 2 d.month ++ '-' ::
      (paddedDigits 2 d.day ++ rest))) = some (d, rest) := by
  obtain ⟨-, -, hmonth, -, hday⟩ := d.valid
  have hmonthDays : daysInMonth d.year d.month ≤ 31 := by
    rw [daysInMonth]
    split
    · split <;> decide
    · split <;> decide
  have hhyphen (rest : List Char) : ∀ c ∈ ('-' :: rest).head?, c.isDigit = false := by simp
  rw [readDate?, readYear?_yearChars d.year (hhyphen _)]
  simp only [bind, Option.bind, readMark?_cons (by decide : isBlank '-' = false),
    readPair?_paddedDigits (by omega : d.month < 100) hmonth,
    readPair?_paddedDigits (by omega : d.day < 100) (by omega : d.day ≤ 31), Date.of?_self]
  rfl

/-- A fraction of fixed width is read as its nanoseconds. -/
theorem readFraction?_digits {width n : Nat} (hwidth : 0 < width) (hmost : width ≤ 9)
    (hn : n < 10 ^ width) {rest : List Char} (hrest : ∀ c ∈ rest.head?, c.isDigit = false) :
    readFraction? ('.' :: (paddedDigits width n ++ rest)) = some (n * 10 ^ (9 - width), rest) := by
  have hlen := length_paddedDigits hwidth hn
  have htake : (paddedDigits width n).take 9 = paddedDigits width n :=
    List.take_of_length_le (by omega)
  simp only [readFraction?, takeWhile_append_stop isDigit_paddedDigits hrest,
    paddedDigits_ne_nil hwidth n, if_false, htake, ofDigitChars_paddedDigits, List.drop_left]
  rw [hlen]
  rfl

/-- Every fraction is read in front of something that is no digit and no point. -/
theorem readFraction?_fractionChars {n : Nat} (hn : n < 1000000000) {c : Char}
    (hdigit : c.isDigit = false) (hpoint : c ≠ '.') (rest : List Char) :
    readFraction? (fractionChars n ++ c :: rest) = some (n, c :: rest) := by
  have hrest : ∀ d ∈ (c :: rest).head?, d.isDigit = false := by simpa using hdigit
  rw [fractionChars]
  split
  · next h =>
    rw [h, List.nil_append, readFraction?]
    rintro _ ⟨⟩
    exact hpoint rfl
  split
  · rw [List.cons_append, readFraction?_digits (by decide) (by decide) (by omega) hrest]
    congr 2
    omega
  split
  · rw [List.cons_append, readFraction?_digits (by decide) (by decide) (by omega) hrest]
    congr 2
    omega
  · rw [List.cons_append, readFraction?_digits (by decide) (by decide) (by omega) hrest]
    congr 2
    omega

/-! ## Clocks -/

/-- What a clock shows, and how many minutes it is ahead of universal time. -/
structure Clock where
  date : Date
  minute : Fin 1440
  second : Fin 61
  nanos : Fin 1000000000
  offset : Int
deriving DecidableEq

/-- The moment at which the clock shows this. -/
def Clock.moment? (c : Clock) : Option Timestamp :=
  ofLocal? c.offset c.date c.minute c.second c.nanos

theorem neZero_seconds : NeZero 61 := ⟨by decide⟩

theorem neZero_nanos : NeZero 1000000000 := ⟨by decide⟩

/-- The clock that the characters describe. -/
def clock? (s : List Char) : Option Clock := do
  let (date, s) ← readDate? s
  let s ← readSeparator? s
  let (hour, s) ← readPair? 23 s
  let s ← readMark? ':' s
  let (minute, s) ← readPair? 59 s
  let s ← readMark? ':' s
  let (second, s) ← readPair? 60 s
  let (nanos, s) ← readFraction? s
  let (offset, s) ← readOffset? (trimStart s)
  if trimStart s = [] then
    return ⟨date, minuteOfDay (hour * 60 + minute), @Fin.ofNat 61 neZero_seconds second,
      @Fin.ofNat 1000000000 neZero_nanos nanos, offset⟩
  else none

/-- The characters spell the moment at which the clock shows what they say. -/
theorem ofChars?_eq (s : List Char) : ofChars? s = (clock? s).bind Clock.moment? := by
  have hbind {α β γ : Type} {x : Option α} {f : α → Option β} {g : β → Option γ}
      {h : α → Option γ} (hf : ∀ a, h a = (f a).bind g) : x.bind h = (x.bind f).bind g := by
    rw [Option.bind_assoc]
    exact congrArg _ (funext hf)
  rw [ofChars?, clock?]
  refine hbind fun ⟨date, s⟩ => hbind fun s => hbind fun ⟨hour, s⟩ => hbind fun s =>
    hbind fun ⟨minute, s⟩ => hbind fun s => hbind fun ⟨second, s⟩ => hbind fun ⟨nanos, s⟩ =>
    hbind fun ⟨offset, s⟩ => ?_
  dsimp only
  split <;> rfl

/-- A clock is read off its date and time, and an offset behind them. -/
theorem clock?_localChars (t : Timestamp) {c : Char} (hdigit : c.isDigit = false) (hpoint : c ≠ '.')
    {rest : List Char} {offset : Int}
    (hoffset : readOffset? (trimStart (c :: rest)) = some (offset, [])) :
    clock? (t.localChars ++ c :: rest) = some ⟨t.date, t.minute, t.second, t.nanos, offset⟩ := by
  have hminute := t.minute.isLt
  have hsecond := t.second.isLt
  have hchars : t.localChars ++ c :: rest = yearChars t.date.year ++ '-' ::
      (paddedDigits 2 t.date.month ++ '-' :: (paddedDigits 2 t.date.day ++ 'T' ::
      (paddedDigits 2 (t.minute.val / 60) ++ ':' :: (paddedDigits 2 (t.minute.val % 60) ++ ':' ::
      (paddedDigits 2 t.second.val ++ (fractionChars t.nanos.val ++ c :: rest)))))) := by
    simp [localChars]
  have hwhole : minuteOfDay (t.minute.val / 60 * 60 + t.minute.val % 60) = t.minute := by
    apply Fin.ext
    show (t.minute.val / 60 * 60 + t.minute.val % 60) % 1440 = t.minute.val
    omega
  have hsec : Fin.ofNat 61 t.second.val = t.second := Fin.ext (Nat.mod_eq_of_lt hsecond)
  have hnan : Fin.ofNat 1000000000 t.nanos.val = t.nanos := Fin.ext (Nat.mod_eq_of_lt t.nanos.isLt)
  rw [hchars, clock?, readDate?_chars]
  simp only [bind, Option.bind, readSeparator?, readMark?_cons (by decide : isBlank ':' = false),
    readPair?_paddedDigits (by omega : t.minute.val / 60 < 100) (by omega : t.minute.val / 60 ≤ 23),
    readPair?_paddedDigits (by omega : t.minute.val % 60 < 100) (by omega : t.minute.val % 60 ≤ 59),
    readPair?_paddedDigits (by omega : t.second.val < 100) (by omega : t.second.val ≤ 60),
    readFraction?_fractionChars t.nanos.isLt hdigit hpoint, hoffset, hwhole, hsec, hnan]
  rfl

/-! ## The whole -/

/-- **Every moment is read off its text.** -/
theorem ofText?_text (t : Timestamp) : ofText? t.text = some t := by
  have hoffset : readOffset? (trimStart ['Z']) = some (0, []) := by decide
  have hclock := clock?_localChars t (by decide) (by decide) hoffset
  rw [ofText?, text, String.toList_ofList, chars, ofChars?_eq, hclock]
  exact ofLocal?_zero t

end Timestamp

end EventFeed
