import Mathlib.Algebra.GroupWithZero.Nat
import Mathlib.Data.List.Induction
import OperationForge.Bytes

/-!
# Digits of fixed width

A fixed count of base 256 digits stands for the numbers below a power of 256, and
every such number has its own digits.
-/

namespace OperationForge

/-- The least digit of a number, and the digits above it. -/
theorem mod_pow_succ (number width : Nat) :
    number % 256 ^ (width + 1) = number % 256 + 256 * (number / 256 % 256 ^ width) := by
  rw [Nat.pow_succ', Nat.mod_mul]

namespace BigEndian

theorem decode_concat (front : Bytes) (byte : UInt8) :
    decode (front ++ [byte]) = 256 * decode front + byte.toNat := by
  simp [decode]

/-- Writing keeps the number modulo `256 ^ width`. -/
theorem decode_encode (width number : Nat) :
    decode (encode width number) = number % 256 ^ width := by
  induction width generalizing number with
  | zero => simp [decode, encode, Nat.mod_one]
  | succ width ih =>
      rw [encode, decode_concat, ih, UInt8.toNat_ofNat', mod_pow_succ, Nat.add_comm]

/-- Digits of a fixed width are those of the number that they stand for. -/
theorem encode_decode (bytes : Bytes) : encode bytes.length (decode bytes) = bytes := by
  induction bytes using List.reverseRecOn with
  | nil => rfl
  | append_singleton front byte ih =>
      have below := byte.toNat_lt
      have digit : UInt8.ofNat (256 * decode front + byte.toNat) = byte := by
        apply UInt8.toNat_inj.mp
        rw [UInt8.toNat_ofNat']
        omega
      have higher : (256 * decode front + byte.toNat) / 256 = decode front := by omega
      rw [List.length_append, List.length_singleton, encode, decode_concat, digit, higher, ih]

theorem decode_lt (bytes : Bytes) : decode bytes < 256 ^ bytes.length := by
  have modulo := decode_encode bytes.length (decode bytes)
  rw [encode_decode] at modulo
  rw [modulo]
  exact Nat.mod_lt _ (Nat.pow_pos (by decide))

/-- Numbers that fit the width have different digits. -/
theorem eq_of_encode_eq {width left right : Nat} (leftFits : left < 256 ^ width)
    (rightFits : right < 256 ^ width) (same : encode width left = encode width right) :
    left = right := by
  have values := congrArg decode same
  rwa [decode_encode, decode_encode, Nat.mod_eq_of_lt leftFits, Nat.mod_eq_of_lt rightFits]
    at values

end BigEndian

end OperationForge
