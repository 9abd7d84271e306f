import OperationForge.Zarith.Natural

/-!
# Integers of variable length

An integer is its magnitude in groups, as for natural numbers, but the first byte gives its bit 6 to
the sign and keeps six bits of the magnitude:

    1svvvvvv 1ggggggg … 0ggggggg

A set sign bit on magnitude zero reads as zero.
-/

namespace OperationForge.Zarith

/-- The sign and the low six bits of an integer, as they stand in its first byte. -/
def signedHead (number : Int) : Nat :=
  number.natAbs % 64 + if number < 0 then 64 else 0

/-- The shortest form of an integer. -/
def encodeSigned (number : Int) : Bytes :=
  if number.natAbs < 64 then
    [UInt8.ofNat (signedHead number)]
  else
    UInt8.ofNat (signedHead number + 128) :: encodeNat (number.natAbs / 64)

/-- The number that a first byte with a sign and groups after it stand for. -/
def intOfGroups : Bytes → Int
  | [] => 0
  | byte :: rest =>
      let magnitude := byte.toNat % 64 + 64 * natOfGroups rest
      if byte.toNat / 64 % 2 = 1 then -(magnitude : Int) else magnitude

/-- The integer that a byte string is, from its first byte to its last. -/
def decodeSigned (bytes : Bytes) : Except WireError Int :=
  if isNumber bytes then .ok (intOfGroups bytes) else .error .malformedZarith

/-- The integer at the front of a byte string, and how many bytes it takes up. -/
def readNextSigned (bytes : Bytes) : Except WireError (Int × Nat) := do
  let length ← numberLength bytes
  return (intOfGroups (bytes.take length), length)

/-- Integers on the wire. -/
def integer : Format Int where
  read := intOfGroups <$> readGroups
  write number := .wrote (encodeSigned number)

theorem signedHead_lt (number : Int) : signedHead number < 128 := by
  unfold signedHead
  split <;> omega

/-- The low six bits of a head are those of the magnitude. -/
theorem signedHead_mod (number : Int) : signedHead number % 64 = number.natAbs % 64 := by
  unfold signedHead
  split <;> omega

/-- The next bit of a head is set for negative numbers only. -/
theorem signedHead_sign (number : Int) : signedHead number / 64 % 2 = 1 ↔ number < 0 := by
  unfold signedHead
  split <;> omega

@[simp] theorem intOfGroups_encodeSigned (number : Int) :
    intOfGroups (encodeSigned number) = number := by
  have below := signedHead_lt number
  have low := signedHead_mod number
  have sign := signedHead_sign number
  unfold encodeSigned
  split
  · have byte : signedHead number % 256 = signedHead number := by omega
    simp only [intOfGroups, natOfGroups, UInt8.toNat_ofNat', byte, sign]
    split <;> omega
  · have byte : (signedHead number + 128) % 256 = signedHead number + 128 := by omega
    have marked : (signedHead number + 128) / 64 % 2 = 1 ↔ number < 0 := by omega
    simp only [intOfGroups, natOfGroups_encodeNat, UInt8.toNat_ofNat', byte, marked]
    split <;> omega

end OperationForge.Zarith
