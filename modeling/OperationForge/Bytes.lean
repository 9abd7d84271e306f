/-!
# Byte strings and their numerals

A byte string is a list of bytes.  `FixedBytes size` carries its length in its type, so a hash, a
key or a signature can never have the wrong size.

A numeral is a list of digits, most significant first.  `BigEndian` and `LittleEndian` write a
number with a fixed count of base 256 digits; the number is taken modulo `256 ^ width`.
-/

namespace OperationForge

/-- A byte string of any length. -/
abbrev Bytes := List UInt8

/-- A byte string of exactly `size` bytes. -/
@[ext] structure FixedBytes (size : Nat) where
  toList : Bytes
  length_toList : toList.length = size
  deriving DecidableEq

namespace FixedBytes

variable {size : Nat}

attribute [simp] length_toList

/-- The bytes, when there are exactly `size` of them. -/
def ofList? (size : Nat) (bytes : Bytes) : Option (FixedBytes size) :=
  if exact : bytes.length = size then some ⟨bytes, exact⟩ else none

@[simp] theorem ofList?_toList (block : FixedBytes size) :
    ofList? size block.toList = some block := by
  simp [ofList?]

/-- The first `size` bytes of a long enough byte string. -/
def ofPrefix (size : Nat) (bytes : Bytes) (enough : size ≤ bytes.length) : FixedBytes size :=
  ⟨bytes.take size, by simp [enough]⟩

/-- Two blocks, one after the other. -/
def append {left right : Nat} (first : FixedBytes left) (second : FixedBytes right) :
    FixedBytes (left + right) :=
  ⟨first.toList ++ second.toList, by simp⟩

end FixedBytes

namespace Numeral

/-- The number written by `digits` in `base`. -/
def value (base : Nat) (digits : List Nat) : Nat :=
  digits.foldl (fun number digit => base * number + digit) 0

/-- The digits of `number` in `base`, without leading zeros; zero has no digits.  A base below two
has no digits at all. -/
def digits (base number : Nat) : List Nat :=
  if 2 ≤ base ∧ 0 < number then digits base (number / base) ++ [number % base] else []
termination_by number
decreasing_by exact Nat.div_lt_self (by omega) (by omega)

@[simp] theorem value_nil (base : Nat) : value base [] = 0 := rfl

@[simp] theorem value_append_singleton (base : Nat) (digits : List Nat) (digit : Nat) :
    value base (digits ++ [digit]) = base * value base digits + digit := by
  simp [value]

theorem value_digits {base : Nat} (number : Nat) (two_le : 2 ≤ base) :
    value base (digits base number) = number := by
  fun_induction digits base number with
  | case1 number positive ih =>
      rw [value_append_singleton, ih]
      exact Nat.div_add_mod number base
  | case2 number small =>
      have zero : number = 0 := by omega
      rw [zero, value_nil]

end Numeral

namespace BigEndian

/-- The low `width` bytes of a number, most significant first. -/
def encode : (width number : Nat) → Bytes
  | 0, _ => []
  | width + 1, number => encode width (number / 256) ++ [UInt8.ofNat number]

/-- The number whose bytes are given most significant first. -/
def decode (bytes : Bytes) : Nat :=
  Numeral.value 256 (bytes.map UInt8.toNat)

@[simp] theorem length_encode (width number : Nat) : (encode width number).length = width := by
  induction width generalizing number with
  | zero => rfl
  | succ width ih => simp [encode, ih]

/-- `encode` with its length in the type. -/
def fixed (width number : Nat) : FixedBytes width :=
  ⟨encode width number, length_encode width number⟩

end BigEndian

namespace LittleEndian

/-- The low `width` bytes of a number, least significant first. -/
def encode : (width number : Nat) → Bytes
  | 0, _ => []
  | width + 1, number => UInt8.ofNat number :: encode width (number / 256)

/-- The number whose bytes are given least significant first. -/
def decode : Bytes → Nat
  | [] => 0
  | byte :: rest => byte.toNat + 256 * decode rest

@[simp] theorem length_encode (width number : Nat) : (encode width number).length = width := by
  induction width generalizing number with
  | zero => rfl
  | succ width ih => simp [encode, ih]

/-- `encode` with its length in the type. -/
def fixed (width number : Nat) : FixedBytes width :=
  ⟨encode width number, length_encode width number⟩

end LittleEndian

end OperationForge
