import EventFeed.Http.Percent
import EventFeed.Proofs.Text.Utf8

/-!
# EventFeed.Proofs.Http.Percent

What a percent-encoded text is decoded to, without a word of bytes.  ASCII
characters take one byte each, so every character of such a text is spelled by
itself or by a percent sign and the two digits of its number, and in no other
way (`Http.percentDecode?_eq_some_iff`).
-/

namespace EventFeed

namespace Http

/-- A text spells another one: each character stands for itself, or its number
stands behind a percent sign, in two hexadecimal digits. -/
inductive Spells : List Char → List Char → Prop where
  | nil : Spells [] []
  | plain (c : Char) {cs ds : List Char} (rest : Spells cs ds) : Spells (c :: cs) (c :: ds)
  | encoded {a b c : Char} {x y : Nat} {cs ds : List Char} (high : hexDigit? a = some x)
      (low : hexDigit? b = some y) (number : c.toNat = x * 16 + y) (rest : Spells cs ds) :
      Spells ('%' :: a :: b :: cs) (c :: ds)

/-- Every text spells itself. -/
theorem Spells.refl (cs : List Char) : Spells cs cs := by
  induction cs with
  | nil => exact .nil
  | cons c cs ih => exact .plain c ih

variable {cs ds : List Char}

theorem hexDigit?_lt {c : Char} {x : Nat} (h : hexDigit? c = some x) : x < 16 := by
  have hrange (a b : Char) : a ≤ b ↔ a.toNat ≤ b.toNat := Iff.rfl
  simp only [hexDigit?, hrange, Char.reduceToNat] at h
  grind

/-- No other character has a sequence that begins with that byte. -/
theorem utf8EncodeChar_append_eq_cons {c d : Char} {bytes rest : List UInt8} (hd : d.toNat < 0x80)
    (h : String.utf8EncodeChar c ++ bytes = UInt8.ofNat d.toNat :: rest) :
    c = d ∧ bytes = rest := by
  obtain ⟨a, more, hbytes, hlead⟩ := Utf8.exists_lead? c
  rw [hbytes, List.cons_append] at h
  obtain ⟨rfl, rfl⟩ := List.cons.inj h
  have hbyte := Utf8.toNat_ofNat (n := d.toNat) (by omega)
  have hascii := Utf8.lead?_of_ascii (a := UInt8.ofNat d.toNat) (by omega) (more ++ bytes)
  rw [hlead, hbyte, Char.ofNat_toNat, Option.some.injEq, Prod.mk.injEq] at hascii
  obtain ⟨hc, hmore⟩ := hascii
  exact ⟨hc, by rw [List.eq_nil_of_length_eq_zero hmore, List.nil_append]⟩

/-- What spells a text of ASCII stands for its bytes. -/
theorem Spells.percentBytes_eq (h : Spells cs ds) (hds : ∀ c ∈ ds, c.toNat < 0x80 ∧ c ≠ '%') :
    percentBytes cs = ds.map fun c => UInt8.ofNat c.toNat := by
  induction h with
  | nil => rfl
  | plain c rest ih =>
    obtain ⟨hc, hds⟩ := List.forall_mem_cons.1 hds
    rw [percentBytes, ih hds, Utf8.utf8EncodeChar_ascii hc.1]
    · rfl
    · exact fun _ _ _ hpercent => absurd hpercent hc.2
  | encoded high low number rest ih =>
    rw [percentBytes, high, low, ih (List.forall_mem_cons.1 hds).2, List.map_cons, number]

/-- Nothing else stands for them. -/
theorem spells_of_percentBytes (hds : ∀ c ∈ ds, c.toNat < 0x80 ∧ c ≠ '%')
    (h : percentBytes cs = ds.map fun c => UInt8.ofNat c.toNat) : Spells cs ds := by
  fun_induction percentBytes cs generalizing ds with
  | case1 =>
    rw [List.map_eq_nil_iff.1 h.symm]
    exact .nil
  | case2 a b cs x y low high ih =>
    obtain ⟨c, ds, rfl, hbyte, hrest⟩ := List.map_eq_cons_iff.1 h.symm
    obtain ⟨hc, hds⟩ := List.forall_mem_cons.1 hds
    refine .encoded high low ?_ (ih hds hrest.symm)
    have hx := hexDigit?_lt high
    have hy := hexDigit?_lt low
    have hnumber := congrArg UInt8.toNat hbyte
    rwa [Utf8.toNat_ofNat (by omega), Nat.toUInt8_eq, Utf8.toNat_ofNat (by omega)] at hnumber
  | case3 a b cs _ _ =>
    -- a percent sign that stands for itself is not in the text
    obtain ⟨c, ds, rfl, hbyte, -⟩ := List.map_eq_cons_iff.1 h.symm
    obtain ⟨⟨hascii, hpercent⟩, -⟩ := List.forall_mem_cons.1 hds
    have hnumber := congrArg UInt8.toNat hbyte
    rw [Utf8.toNat_ofNat (by omega)] at hnumber
    exact absurd (Char.toNat_inj.1 hnumber) hpercent
  | case4 c cs _ ih =>
    cases ds with
    | nil =>
      obtain ⟨a, more, hbytes, -⟩ := Utf8.exists_lead? c
      rw [hbytes] at h
      cases h
    | cons d ds =>
      obtain ⟨hd, hds'⟩ := List.forall_mem_cons.1 hds
      obtain ⟨rfl, hrest⟩ := utf8EncodeChar_append_eq_cons hd.1 h
      exact .plain c (ih hds' hrest)

/-- **A text is decoded to what it spells.**  This holds of texts of ASCII
without percent signs. -/
theorem percentDecode?_eq_some_iff {s t : String} (h : ∀ c ∈ t.toList, c.toNat < 0x80 ∧ c ≠ '%') :
    percentDecode? s = some t ↔ Spells s.toList t.toList := by
  rw [percentDecode?, Utf8.decode?_eq_some_iff, Utf8.encode,
    Utf8.flatMap_utf8EncodeChar_ascii fun c hc => (h c hc).1]
  exact ⟨spells_of_percentBytes h, fun hspells => hspells.percentBytes_eq h⟩

end Http

end EventFeed
