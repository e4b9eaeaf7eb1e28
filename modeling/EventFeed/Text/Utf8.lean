/-!
# EventFeed.Text.Utf8

Bytes read as text.  `symbols` splits a byte string into well-formed
UTF-8 sequences, one character each; a byte that starts no well-formed
sequence stands alone as a *stray* byte.  A reader over symbols therefore
sees every byte of its input, knows where text is damaged, and may
accept damage in a place where nobody looks at the text.

No ASCII byte is part of a longer sequence, so damage never swallows a
quote, a brace or a line end.
-/

namespace EventFeed

/-- What a reader of text sees: a character, or a byte that belongs to no
well-formed UTF-8 sequence. -/
inductive Symbol where
  | char (c : Char)
  | stray (b : UInt8)
deriving Repr, DecidableEq, Inhabited

/-- Text as a reader takes it in. -/
abbrev Input := List Symbol

namespace Symbol

/-- How many bytes the symbol takes. -/
def width : Symbol → Nat
  | .char c => c.utf8Size
  | .stray _ => 1

/-- The bytes of a symbol. -/
def bytes : Symbol → List UInt8
  | .char c => String.utf8EncodeChar c
  | .stray b => [b]

end Symbol

namespace Utf8

/-! ## Splitting bytes into symbols -/

/-- The low six bits of a continuation byte, and nothing of any other. -/
def continuation? (b : UInt8) : Option Nat :=
  if 0x80 ≤ b.toNat && b.toNat < 0xC0 then some (b.toNat - 0x80) else none

/-- The character of a two-byte sequence: no overlong form. -/
def pair? (a b : UInt8) : Option Char :=
  if 0xC2 ≤ a.toNat && a.toNat ≤ 0xDF then
    (continuation? b).map fun y => Char.ofNat ((a.toNat - 0xC0) * 64 + y)
  else none

/-- The character of a three-byte sequence: no overlong form and no
surrogate. -/
def triple? (a b c : UInt8) : Option Char :=
  if 0xE0 ≤ a.toNat && a.toNat ≤ 0xEF then
    match continuation? b, continuation? c with
    | some y, some z =>
      let n := (a.toNat - 0xE0) * 4096 + y * 64 + z
      if 0x800 ≤ n && !(0xD800 ≤ n && n < 0xE000) then some (Char.ofNat n) else none
    | _, _ => none
  else none

/-- The character of a four-byte sequence: no overlong form and nothing
above `U+10FFFF`. -/
def quadruple? (a b c d : UInt8) : Option Char :=
  if 0xF0 ≤ a.toNat && a.toNat ≤ 0xF4 then
    match continuation? b, continuation? c, continuation? d with
    | some x, some y, some z =>
      let n := (a.toNat - 0xF0) * 262144 + x * 4096 + y * 64 + z
      if 0x10000 ≤ n && n < 0x110000 then some (Char.ofNat n) else none
    | _, _, _ => none
  else none

/-- The character that starts with the byte `a`, and how many of the
following bytes it takes; `none` for a stray byte. -/
def lead? (a : UInt8) (rest : List UInt8) : Option (Char × Nat) :=
  if a.toNat < 0x80 then some (Char.ofNat a.toNat, 0)
  else
    match rest with
    | b :: c :: d :: _ =>
      ((pair? a b).map (·, 1)) <|> ((triple? a b c).map (·, 2)) <|>
        ((quadruple? a b c d).map (·, 3))
    | [b, c] => ((pair? a b).map (·, 1)) <|> ((triple? a b c).map (·, 2))
    | [b] => (pair? a b).map (·, 1)
    | [] => none

/-- `symbols` with the symbols found so far, newest first, and how many
bytes of the last sequence are still to be passed over. -/
def symbolsFrom (done : Input) : Nat → List UInt8 → Input
  | _, [] => done.reverse
  | n + 1, _ :: rest => symbolsFrom done n rest
  | 0, a :: rest =>
    match lead? a rest with
    | some (c, n) => symbolsFrom (.char c :: done) n rest
    | none => symbolsFrom (.stray a :: done) 0 rest

/-- The symbols of a byte string. -/
def symbols (bytes : List UInt8) : Input := symbolsFrom [] 0 bytes

/-! ## Text -/

/-- The symbols of text that needs no check. -/
def ofText (s : String) : Input := s.toList.map Symbol.char

/-- The characters of an input without stray bytes. -/
def chars? (input : Input) : Option (List Char) :=
  input.mapM fun
    | .char c => some c
    | .stray _ => none

/-- The text that the bytes spell, if they are well-formed UTF-8. -/
def decode? (bytes : List UInt8) : Option String :=
  (chars? (symbols bytes)).map String.ofList

/-- The bytes that spell a text. -/
def encode (s : String) : List UInt8 := s.toList.flatMap String.utf8EncodeChar

/-! ## Width -/

/-- How many bytes the input takes. -/
def width (input : Input) : Nat := input.foldl (fun n s => n + s.width) 0

theorem width_go (n : Nat) (input : Input) :
    input.foldl (fun n s => n + s.width) n = n + width input := by
  induction input generalizing n with
  | nil => rfl
  | cons s r ih =>
    rw [width, List.foldl_cons, List.foldl_cons, ih, ih (0 + s.width)]
    omega

@[simp] theorem width_nil : width [] = 0 := rfl

@[simp] theorem width_cons (s : Symbol) (r : Input) : width (s :: r) = s.width + width r := by
  rw [width, List.foldl_cons, width_go, Nat.zero_add]

/-- Text without damage reads back as itself. -/
@[simp] theorem chars?_map_char (s : List Char) : chars? (s.map Symbol.char) = some s := by
  induction s with
  | nil => rfl
  | cons c r ih =>
    simp only [chars?, List.map_cons, List.mapM_cons] at ih ⊢
    simp [ih]

/-- An ASCII byte is the character of its code, whatever follows. -/
theorem lead?_of_ascii {a : UInt8} (h : a.toNat < 0x80) (rest : List UInt8) :
    lead? a rest = some (Char.ofNat a.toNat, 0) := by
  simp [lead?, h]

end Utf8

end EventFeed
