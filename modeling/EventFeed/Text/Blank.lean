/-!
# EventFeed.Text.Blank

White space as Unicode's `White_Space` property counts it, and trimming
by it.  Event names are trimmed by this rule before they are published,
a host may hold none of these characters, and both the reader of
timestamps and the reader of `.env` files step over them.

The zero-width characters (`U+200B`, `U+FEFF`, `U+180E`) are *not* white
space: an event name made of one of them is not blank.
-/

namespace EventFeed

/-! ## The property -/

/-- Unicode `White_Space`: the twenty-five code points, as seven ranges
and singletons. -/
def isBlank (c : Char) : Bool :=
  let n := c.toNat
  (9 ≤ n && n ≤ 13) || n == 0x20 || n == 0x85 || n == 0xA0 || n == 0x1680 ||
    (0x2000 ≤ n && n ≤ 0x200A) || n == 0x2028 || n == 0x2029 || n == 0x202F ||
    n == 0x205F || n == 0x3000

/-! ## Trimming -/

/-- Drop the leading blanks. -/
def trimStart (s : List Char) : List Char := s.dropWhile isBlank

/-- Drop the trailing blanks. -/
def trimEnd (s : List Char) : List Char := (s.reverse.dropWhile isBlank).reverse

/-- Drop the blanks at both ends. -/
def trim (s : List Char) : List Char := trimEnd (trimStart s)

/-- `trim`, on strings. -/
def trimText (s : String) : String := String.ofList (trim s.toList)

/-- What is left after `trimStart` is empty or starts with a visible
character. -/
theorem head_trimStart (s : List Char) :
    ∀ c ∈ (trimStart s).head?, isBlank c = false := by
  induction s with
  | nil => simp [trimStart]
  | cons c r ih =>
    by_cases h : isBlank c
    · simpa [trimStart, List.dropWhile_cons, h] using ih
    · simp [trimStart, h]

end EventFeed
