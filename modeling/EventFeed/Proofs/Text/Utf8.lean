import EventFeed.Text.Utf8

/-!
# EventFeed.Proofs.Text.Utf8

Text is read as it was encoded (`Utf8.symbols_encode`, `Utf8.decode?_encode`).
The sequence of each character is found by the length of its sequence: its
first byte rules out the shorter forms, and its number is put together from
the six bits that each of the other bytes carries.

Conversely, bytes that can be decoded are the encoding of what they are decoded
to (`Utf8.decode?_eq_some_iff`): a character has one sequence only, because
longer forms are refused.
-/

namespace EventFeed

namespace Utf8

/-! ## Bytes -/

theorem toNat_ofNat {n : Nat} (h : n < 256) : (UInt8.ofNat n).toNat = n := by
  simp [Nat.mod_eq_of_lt h]

/-- A continuation byte carries six bits. -/
theorem continuation?_ofNat (n : Nat) :
    continuation? (UInt8.ofNat (n % 64 + 128)) = some (n % 64) := by
  have hbyte := toNat_ofNat (by omega : n % 64 + 128 < 256)
  have hlow : (0x80 ≤ n % 64 + 128 && n % 64 + 128 < 0xC0) = true := by
    simp only [Bool.and_eq_true, decide_eq_true_eq]
    omega
  rw [continuation?, hbyte, if_pos hlow, Nat.add_sub_cancel]

/-- A first byte above those of the pairs starts none. -/
theorem pair?_of_lt {a : UInt8} (h : 0xDF < a.toNat) (b : UInt8) : pair? a b = none := by
  rw [pair?, if_neg]
  simp only [Bool.and_eq_true, decide_eq_true_eq]
  omega

/-- A first byte above those of the triples starts none. -/
theorem triple?_of_lt {a : UInt8} (h : 0xEF < a.toNat) (b c : UInt8) : triple? a b c = none := by
  rw [triple?, if_neg]
  simp only [Bool.and_eq_true, decide_eq_true_eq]
  omega

/-! ## Sequences -/

theorem pair?_ofNat {v : Nat} (hlow : 0x80 ≤ v) (hhigh : v < 0x800) :
    pair? (UInt8.ofNat (v / 64 % 32 + 192)) (UInt8.ofNat (v % 64 + 128)) = some (Char.ofNat v) := by
  have hbyte := toNat_ofNat (by omega : v / 64 % 32 + 192 < 256)
  have hrange : (0xC2 ≤ v / 64 % 32 + 192 && v / 64 % 32 + 192 ≤ 0xDF) = true := by
    simp only [Bool.and_eq_true, decide_eq_true_eq]
    omega
  have hnumber : (v / 64 % 32 + 192 - 0xC0) * 64 + v % 64 = v := by omega
  rw [pair?, hbyte, if_pos hrange, continuation?_ofNat, Option.map_some, hnumber]

theorem triple?_ofNat {v : Nat} (hlow : 0x800 ≤ v) (hhigh : v < 0x10000)
    (hsurrogate : ¬(0xD800 ≤ v ∧ v < 0xE000)) :
    triple? (UInt8.ofNat (v / 4096 % 16 + 224)) (UInt8.ofNat (v / 64 % 64 + 128))
      (UInt8.ofNat (v % 64 + 128)) = some (Char.ofNat v) := by
  have hbyte := toNat_ofNat (by omega : v / 4096 % 16 + 224 < 256)
  have hrange : (0xE0 ≤ v / 4096 % 16 + 224 && v / 4096 % 16 + 224 ≤ 0xEF) = true := by
    simp only [Bool.and_eq_true, decide_eq_true_eq]
    omega
  have hnumber : (v / 4096 % 16 + 224 - 0xE0) * 4096 + v / 64 % 64 * 64 + v % 64 = v := by omega
  have hvalid : (0x800 ≤ v && !(0xD800 ≤ v && v < 0xE000)) = true := by
    simp only [Bool.and_eq_true, Bool.not_eq_true', Bool.and_eq_false_iff, decide_eq_true_eq,
      decide_eq_false_iff_not]
    omega
  rw [triple?, hbyte, if_pos hrange, continuation?_ofNat, continuation?_ofNat]
  dsimp only
  rw [hnumber, if_pos hvalid]

theorem quadruple?_ofNat {v : Nat} (hlow : 0x10000 ≤ v) (hhigh : v < 0x110000) :
    quadruple? (UInt8.ofNat (v / 262144 % 8 + 240)) (UInt8.ofNat (v / 4096 % 64 + 128))
      (UInt8.ofNat (v / 64 % 64 + 128)) (UInt8.ofNat (v % 64 + 128)) = some (Char.ofNat v) := by
  have hbyte := toNat_ofNat (by omega : v / 262144 % 8 + 240 < 256)
  have hrange : (0xF0 ≤ v / 262144 % 8 + 240 && v / 262144 % 8 + 240 ≤ 0xF4) = true := by
    simp only [Bool.and_eq_true, decide_eq_true_eq]
    omega
  have hnumber : (v / 262144 % 8 + 240 - 0xF0) * 262144 + v / 4096 % 64 * 4096 +
      v / 64 % 64 * 64 + v % 64 = v := by omega
  have hvalid : (0x10000 ≤ v && v < 0x110000) = true := by
    simp only [Bool.and_eq_true, decide_eq_true_eq]
    omega
  rw [quadruple?, hbyte, if_pos hrange, continuation?_ofNat, continuation?_ofNat,
    continuation?_ofNat]
  dsimp only
  rw [hnumber, if_pos hvalid]

/-! ## Characters -/

theorem lead?_of_pair {a b : UInt8} {c : Char} (hascii : 0x80 ≤ a.toNat)
    (hpair : pair? a b = some c) (rest : List UInt8) : lead? a (b :: rest) = some (c, 1) := by
  unfold lead?
  rw [if_neg (Nat.not_lt.2 hascii)]
  rcases rest with _ | ⟨x, _ | ⟨y, rest⟩⟩ <;> simp [hpair]

theorem lead?_of_triple {a b d : UInt8} {c : Char} (hfirst : 0xDF < a.toNat)
    (htriple : triple? a b d = some c) (rest : List UInt8) :
    lead? a (b :: d :: rest) = some (c, 2) := by
  have hpair := pair?_of_lt hfirst b
  unfold lead?
  rw [if_neg (by omega)]
  rcases rest with _ | ⟨x, rest⟩ <;> simp [hpair, htriple]

theorem lead?_of_quadruple {a b d e : UInt8} {c : Char} (hfirst : 0xEF < a.toNat)
    (hquadruple : quadruple? a b d e = some c) (rest : List UInt8) :
    lead? a (b :: d :: e :: rest) = some (c, 3) := by
  have hpair := pair?_of_lt (Nat.lt_trans (by decide) hfirst) b
  have htriple := triple?_of_lt hfirst b d
  unfold lead?
  rw [if_neg (by omega)]
  simp [hpair, htriple, hquadruple]

/-- The numbers of characters: no surrogates, and none too large. -/
theorem toNat_char (c : Char) :
    c.toNat < 0x110000 ∧ ¬(0xD800 ≤ c.toNat ∧ c.toNat < 0xE000) := by
  have hvalid : c.toNat.isValidChar := c.valid
  unfold Nat.isValidChar at hvalid
  omega

/-- **The sequence of a character is recognised**, whatever follows it. -/
theorem exists_lead? (c : Char) : ∃ a more, String.utf8EncodeChar c = a :: more ∧
    ∀ rest, lead? a (more ++ rest) = some (c, more.length) := by
  obtain ⟨hbound, hsurrogate⟩ := toNat_char c
  have hchar : Char.ofNat c.toNat = c := Char.ofNat_toNat c
  have hval : c.val.toNat = c.toNat := rfl
  unfold String.utf8EncodeChar
  simp only [hval]
  split
  · next hone =>
    have hbyte := toNat_ofNat (by omega : c.toNat < 256)
    refine ⟨_, [], rfl, fun rest => ?_⟩
    rw [lead?_of_ascii (by omega), hbyte, hchar]
    rfl
  split
  · next hone htwo =>
    have hbyte := toNat_ofNat (by omega : c.toNat / 64 % 32 + 192 < 256)
    have hpair := pair?_ofNat (by omega : 0x80 ≤ c.toNat) (by omega)
    rw [hchar] at hpair
    exact ⟨_, [_], rfl, lead?_of_pair (by omega) hpair⟩
  split
  · next hone htwo hthree =>
    have hbyte := toNat_ofNat (by omega : c.toNat / 4096 % 16 + 224 < 256)
    have htriple := triple?_ofNat (by omega : 0x800 ≤ c.toNat) (by omega) hsurrogate
    rw [hchar] at htriple
    exact ⟨_, [_, _], rfl, lead?_of_triple (by omega) htriple⟩
  · next hone htwo hthree =>
    have hbyte := toNat_ofNat (by omega : c.toNat / 262144 % 8 + 240 < 256)
    have hquadruple := quadruple?_ofNat (by omega : 0x10000 ≤ c.toNat) hbound
    rw [hchar] at hquadruple
    exact ⟨_, [_, _, _], rfl, lead?_of_quadruple (by omega) hquadruple⟩

/-- The bytes of a sequence behind its first one are passed over. -/
theorem symbolsFrom_append (done : Input) (more rest : List UInt8) :
    symbolsFrom done more.length (more ++ rest) = symbolsFrom done 0 rest := by
  induction more with
  | nil => rfl
  | cons b more ih => exact ih

/-! ## Text -/

theorem symbolsFrom_encode (done : Input) (cs : List Char) :
    symbolsFrom done 0 (cs.flatMap String.utf8EncodeChar) = done.reverse ++ cs.map .char := by
  induction cs generalizing done with
  | nil => simp [symbolsFrom]
  | cons c cs ih =>
    obtain ⟨a, more, hbytes, hlead⟩ := exists_lead? c
    rw [List.flatMap_cons, hbytes, List.cons_append, symbolsFrom, hlead]
    dsimp only
    rw [symbolsFrom_append, ih, List.reverse_cons, List.append_assoc]
    rfl

/-- **Encoded text is read as text.** -/
@[simp] theorem symbols_encode (s : String) : symbols (encode s) = ofText s := by
  rw [symbols, encode, symbolsFrom_encode]
  rfl

/-- **Encoded text is decoded.** -/
@[simp] theorem decode?_encode (s : String) : decode? (encode s) = some s := by
  rw [decode?, symbols_encode, ofText, chars?_map_char, Option.map_some, String.ofList_toList]

/-- Only the empty text is encoded by nothing. -/
theorem encode_eq_nil_iff {s : String} : encode s = [] ↔ s = "" := by
  refine ⟨fun h => ?_, fun h => h ▸ rfl⟩
  have hdecoded := decode?_encode s
  rw [h] at hdecoded
  exact (Option.some.inj hdecoded).symm

/-- Only the character zero has a zero in its sequence. -/
theorem eq_zero_of_mem_utf8EncodeChar {c : Char} (h : 0 ∈ String.utf8EncodeChar c) :
    c = '\x00' := by
  have hbyte {n : Nat} (hpos : 0 < n) (hn : n < 256) : (0 : UInt8) ≠ UInt8.ofNat n := by
    intro hzero
    have hnumber := toNat_ofNat hn
    rw [← hzero] at hnumber
    exact absurd hnumber (Nat.ne_of_lt hpos)
  have hval : c.val.toNat = c.toNat := rfl
  simp only [String.utf8EncodeChar, hval] at h
  split at h
  · rcases Nat.eq_zero_or_pos c.toNat with hzero | hpos
    · exact Char.toNat_inj.1 hzero
    · exact absurd (List.mem_singleton.1 h) (hbyte hpos (by omega))
  have hbound := (toNat_char c).1
  have hnone : (0 : UInt8) ∉ ([] : List UInt8) := List.not_mem_nil
  split at h
  · simp only [List.mem_cons, hnone, or_false] at h
    rcases h with h | h <;> exact absurd h (hbyte (by omega) (by omega))
  split at h
  · simp only [List.mem_cons, hnone, or_false] at h
    rcases h with h | h | h <;> exact absurd h (hbyte (by omega) (by omega))
  · simp only [List.mem_cons, hnone, or_false] at h
    rcases h with h | h | h | h <;> exact absurd h (hbyte (by omega) (by omega))

/-- **Zeros**: bytes that spell a text have one if and only if the text has. -/
theorem zero_mem_encode_iff {s : String} : 0 ∈ encode s ↔ '\x00' ∈ s.toList := by
  rw [encode, List.mem_flatMap]
  constructor
  · rintro ⟨c, hc, hzero⟩
    rwa [← eq_zero_of_mem_utf8EncodeChar hzero]
  · exact fun h => ⟨_, h, by decide +kernel⟩

/-- No character takes more than four bytes. -/
theorem length_encode_le (s : String) : (encode s).length ≤ 4 * s.toList.length := by
  rw [encode]
  induction s.toList with
  | nil => exact Nat.zero_le _
  | cons c cs ih =>
    have hsize : (String.utf8EncodeChar c).length ≤ 4 := by
      rw [String.length_utf8EncodeChar]
      exact c.utf8Size_le_four
    rw [List.flatMap_cons, List.length_append, List.length_cons]
    omega

/-! ## Decoding -/

/-- What a continuation byte carries. -/
theorem continuation?_eq_some {b : UInt8} {y : Nat} (h : continuation? b = some y) :
    b.toNat = y + 128 ∧ y < 64 := by
  rw [continuation?] at h
  split at h
  · next hrange =>
    simp only [Bool.and_eq_true, decide_eq_true_eq] at hrange
    have hy := Option.some.inj h
    omega
  · cases h

/-- The number of the character of a number. -/
theorem val_ofNat {n : Nat} (h : n.isValidChar) : (Char.ofNat n).val.toNat = n := by
  rw [Char.ofNat, dif_pos h]
  rfl

/-- A byte is known by its number. -/
theorem ofNat_eq_of_toNat {a : UInt8} {n : Nat} (h : n = a.toNat) : UInt8.ofNat n = a := by
  rw [h, UInt8.ofNat_toNat]

/-- A pair is the sequence of its character. -/
theorem utf8EncodeChar_of_pair? {a b : UInt8} {c : Char} (h : pair? a b = some c) :
    String.utf8EncodeChar c = [a, b] := by
  rw [pair?] at h
  split at h
  · next hrange =>
    simp only [Bool.and_eq_true, decide_eq_true_eq] at hrange
    obtain ⟨y, hy, rfl⟩ := Option.map_eq_some_iff.1 h
    obtain ⟨hb, hlt⟩ := continuation?_eq_some hy
    have hval := val_ofNat (n := (a.toNat - 0xC0) * 64 + y) (.inl (by omega))
    simp only [String.utf8EncodeChar, hval]
    rw [if_neg (by omega), if_pos (by omega), ofNat_eq_of_toNat (by omega : _ = a.toNat),
      ofNat_eq_of_toNat (by omega : _ = b.toNat)]
  · cases h

/-- So is a triple. -/
theorem utf8EncodeChar_of_triple? {a b d : UInt8} {c : Char} (h : triple? a b d = some c) :
    String.utf8EncodeChar c = [a, b, d] := by
  rw [triple?] at h
  split at h
  · next hrange =>
    simp only [Bool.and_eq_true, decide_eq_true_eq] at hrange
    split at h
    · next y z hy hz =>
      dsimp only at h
      split at h
      · next hvalid =>
        simp only [Bool.and_eq_true, Bool.not_eq_true', Bool.and_eq_false_iff, decide_eq_true_eq,
          decide_eq_false_iff_not] at hvalid
        obtain rfl := Option.some.inj h
        obtain ⟨hb, hlt⟩ := continuation?_eq_some hy
        obtain ⟨hd, hlt'⟩ := continuation?_eq_some hz
        have hval := val_ofNat (n := (a.toNat - 0xE0) * 4096 + y * 64 + z)
          (by unfold Nat.isValidChar; omega)
        simp only [String.utf8EncodeChar, hval]
        rw [if_neg (by omega), if_neg (by omega), if_pos (by omega),
          ofNat_eq_of_toNat (by omega : _ = a.toNat), ofNat_eq_of_toNat (by omega : _ = b.toNat),
          ofNat_eq_of_toNat (by omega : _ = d.toNat)]
      · cases h
    · cases h
  · cases h

/-- And so are four bytes. -/
theorem utf8EncodeChar_of_quadruple? {a b d e : UInt8} {c : Char}
    (h : quadruple? a b d e = some c) : String.utf8EncodeChar c = [a, b, d, e] := by
  rw [quadruple?] at h
  split at h
  · next hrange =>
    simp only [Bool.and_eq_true, decide_eq_true_eq] at hrange
    split at h
    · next x y z hx hy hz =>
      dsimp only at h
      split at h
      · next hvalid =>
        simp only [Bool.and_eq_true, decide_eq_true_eq] at hvalid
        obtain rfl := Option.some.inj h
        obtain ⟨hb, hlt⟩ := continuation?_eq_some hx
        obtain ⟨hd, hlt'⟩ := continuation?_eq_some hy
        obtain ⟨he, hlt''⟩ := continuation?_eq_some hz
        have hval := val_ofNat (n := (a.toNat - 0xF0) * 262144 + x * 4096 + y * 64 + z)
          (by unfold Nat.isValidChar; omega)
        simp only [String.utf8EncodeChar, hval]
        rw [if_neg (by omega), if_neg (by omega), if_neg (by omega),
          ofNat_eq_of_toNat (by omega : _ = a.toNat), ofNat_eq_of_toNat (by omega : _ = b.toNat),
          ofNat_eq_of_toNat (by omega : _ = d.toNat), ofNat_eq_of_toNat (by omega : _ = e.toNat)]
      · cases h
    · cases h
  · cases h

/-- A byte below 128 is the sequence of its character. -/
theorem utf8EncodeChar_of_ascii {a : UInt8} (h : a.toNat < 0x80) :
    String.utf8EncodeChar (Char.ofNat a.toNat) = [a] := by
  have hval := val_ofNat (n := a.toNat) (.inl (by omega))
  simp only [String.utf8EncodeChar, hval]
  rw [if_pos (by omega), UInt8.ofNat_toNat]

/-- An ASCII character takes one byte. -/
theorem utf8EncodeChar_ascii {c : Char} (h : c.toNat < 0x80) :
    String.utf8EncodeChar c = [UInt8.ofNat c.toNat] := by
  have hbyte := toNat_ofNat (n := c.toNat) (by omega)
  have hencode := utf8EncodeChar_of_ascii (a := UInt8.ofNat c.toNat) (by omega)
  rwa [hbyte, Char.ofNat_toNat] at hencode

theorem flatMap_utf8EncodeChar_ascii {cs : List Char} (h : ∀ c ∈ cs, c.toNat < 0x80) :
    cs.flatMap String.utf8EncodeChar = cs.map fun c => UInt8.ofNat c.toNat := by
  induction cs with
  | nil => rfl
  | cons c cs ih =>
    obtain ⟨hc, hcs⟩ := List.forall_mem_cons.1 h
    rw [List.flatMap_cons, utf8EncodeChar_ascii hc, ih hcs]
    rfl

/-- Text of ASCII has as many bytes as characters. -/
theorem length_encode_ascii {s : String} (h : ∀ c ∈ s.toList, c.toNat < 0x80) :
    (encode s).length = s.toList.length := by
  rw [encode, flatMap_utf8EncodeChar_ascii h, List.length_map]

/-- **Only the sequence of a character is recognised** as that character. -/
theorem eq_append_of_lead? {a : UInt8} {bytes : List UInt8} {c : Char} {n : Nat}
    (h : lead? a bytes = some (c, n)) :
    a :: bytes = String.utf8EncodeChar c ++ bytes.drop n := by
  unfold lead? at h
  split at h
  · next hascii =>
    cases h
    rw [utf8EncodeChar_of_ascii hascii]
    rfl
  split at h
  · simp only [Option.orElse_eq_orElse, Option.orElse_eq_or, Option.or_eq_some_iff,
      Option.map_eq_some_iff, Prod.mk.injEq] at h
    rcases h with ⟨x, h, rfl, rfl⟩ | ⟨-, ⟨x, h, rfl, rfl⟩ | ⟨-, x, h, rfl, rfl⟩⟩
    · rw [utf8EncodeChar_of_pair? h]
      rfl
    · rw [utf8EncodeChar_of_triple? h]
      rfl
    · rw [utf8EncodeChar_of_quadruple? h]
      rfl
  · simp only [Option.orElse_eq_orElse, Option.orElse_eq_or, Option.or_eq_some_iff,
      Option.map_eq_some_iff, Prod.mk.injEq] at h
    rcases h with ⟨x, h, rfl, rfl⟩ | ⟨-, x, h, rfl, rfl⟩
    · rw [utf8EncodeChar_of_pair? h]
      rfl
    · rw [utf8EncodeChar_of_triple? h]
      rfl
  · obtain ⟨x, hpair, heq⟩ := Option.map_eq_some_iff.1 h
    cases heq
    rw [utf8EncodeChar_of_pair? hpair]
    rfl
  · cases h

/-- The symbols found before stand in front of those that follow. -/
theorem symbolsFrom_front (done past : Input) (n : Nat) (bytes : List UInt8) :
    symbolsFrom (done ++ past) n bytes = past.reverse ++ symbolsFrom done n bytes := by
  induction bytes generalizing done n with
  | nil => simp [symbolsFrom]
  | cons a bytes ih =>
    cases n with
    | succ n => exact ih done n
    | zero =>
      rw [symbolsFrom, symbolsFrom]
      split
      · exact ih (_ :: done) _
      · exact ih (_ :: done) 0

/-- Bytes that are to be passed over are not read. -/
theorem symbolsFrom_drop (done : Input) (n : Nat) (bytes : List UInt8) :
    symbolsFrom done n bytes = symbolsFrom done 0 (bytes.drop n) := by
  induction bytes generalizing n with
  | nil => cases n <;> rfl
  | cons a bytes ih =>
    cases n with
    | succ n => exact ih n
    | zero => rfl

/-- The first symbol, and those behind its bytes. -/
theorem symbols_cons (a : UInt8) (bytes : List UInt8) :
    symbols (a :: bytes) = match lead? a bytes with
      | some (c, n) => .char c :: symbols (bytes.drop n)
      | none => .stray a :: symbols bytes := by
  rw [symbols, symbolsFrom]
  cases lead? a bytes with
  | none => exact symbolsFrom_front [] [.stray a] 0 bytes
  | some p =>
    have hfront := symbolsFrom_front [] [.char p.1] p.2 bytes
    rw [symbolsFrom_drop []] at hfront
    exact hfront

/-- Bytes that are read as characters are their sequences. -/
theorem eq_flatMap_of_symbols {bytes : List UInt8} {cs : List Char}
    (h : symbols bytes = cs.map .char) : bytes = cs.flatMap String.utf8EncodeChar := by
  induction cs generalizing bytes with
  | nil =>
    cases bytes with
    | nil => rfl
    | cons a bytes =>
      rw [symbols_cons] at h
      split at h <;> cases h
  | cons c cs ih =>
    cases bytes with
    | nil => cases h
    | cons a bytes =>
      rw [symbols_cons] at h
      split at h
      · next d n hlead =>
        obtain ⟨hc, hrest⟩ := List.cons.inj h
        cases hc
        rw [List.flatMap_cons, ← ih hrest]
        exact eq_append_of_lead? hlead
      · cases (List.cons.inj h).1

/-- An input without stray bytes consists of its characters. -/
theorem eq_map_of_chars? {input : Input} {cs : List Char} (h : chars? input = some cs) :
    input = cs.map .char := by
  induction input generalizing cs with
  | nil =>
    cases h
    rfl
  | cons s input ih =>
    rw [chars?, List.mapM_cons, Option.bind_eq_bind, Option.bind_eq_some_iff] at h
    obtain ⟨c, hc, h⟩ := h
    obtain ⟨rest, hrest, h⟩ := Option.bind_eq_some_iff.1 h
    obtain rfl := Option.some.inj h
    rw [ih hrest]
    cases s with
    | char d =>
      obtain rfl := Option.some.inj hc
      rfl
    | stray b => cases hc

/-- **Decoding undoes encoding**, and nothing else can be decoded. -/
theorem decode?_eq_some_iff {bytes : List UInt8} {s : String} :
    decode? bytes = some s ↔ bytes = encode s := by
  refine ⟨fun h => ?_, fun h => h ▸ decode?_encode s⟩
  obtain ⟨cs, hcs, rfl⟩ := Option.map_eq_some_iff.1 h
  rw [encode, String.toList_ofList]
  exact eq_flatMap_of_symbols (eq_map_of_chars? hcs)

end Utf8

end EventFeed
