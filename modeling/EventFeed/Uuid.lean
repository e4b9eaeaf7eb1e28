/-!
# EventFeed.Uuid

Random identifiers of 128 bits.  Six of the bits are fixed: they tell that
the others are random.  An identifier is written in lower-case hexadecimal
digits, either in five groups with hyphens between them or in one run.
-/

namespace EventFeed

/-- An identifier of 128 bits. -/
structure Uuid where
  value : BitVec 128
deriving Repr, DecidableEq, Inhabited

namespace Uuid

/-- The bits whose values are random: all but the version and the
variant. -/
def randomBits : BitVec 128 := 0xFFFFFFFFFFFF0FFF3FFFFFFFFFFFFFFF

/-- Version 4, variant 1. -/
def fixedBits : BitVec 128 := 0x00000000000040008000000000000000

/-- The identifier made from random bits. -/
def ofRandom (r : BitVec 128) : Uuid := ⟨(r &&& randomBits) ||| fixedBits⟩

/-- The thirty-two digits. -/
def digits (u : Uuid) : List Char :=
  let ds := Nat.toDigits 16 u.value.toNat
  List.replicate (32 - ds.length) '0' ++ ds

/-- The digits in one run. -/
def simple (u : Uuid) : String := String.ofList u.digits

/-- The digits in groups of 8, 4, 4, 4 and 12. -/
def hyphenated (u : Uuid) : String :=
  let ds := u.digits
  String.ofList (ds.take 8 ++ '-' :: (ds.drop 8).take 4 ++ '-' :: (ds.drop 12).take 4 ++
    '-' :: (ds.drop 16).take 4 ++ '-' :: ds.drop 20)

/-- There are thirty-two digits. -/
theorem length_digits (u : Uuid) : u.digits.length = 32 := by
  have h : (Nat.toDigits 16 u.value.toNat).length ≤ 32 :=
    (Nat.length_toDigits_le_iff (by decide) (by decide)).2 u.value.isLt
  simp only [digits, List.length_append, List.length_replicate]
  omega

example : (ofRandom 0).hyphenated = "00000000-0000-4000-8000-000000000000" := by decide +kernel

end Uuid

end EventFeed
