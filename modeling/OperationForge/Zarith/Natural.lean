import OperationForge.Wire.Format

/-!
# Natural numbers of variable length

A natural number is cut into groups of seven bits, least significant first, one group a byte.  Every
byte but the last has its high bit set:

    1ggggggg 1ggggggg … 0ggggggg

`encodeNat` writes the shortest form.  Reading accepts longer forms too, which end in groups of
zeros.  A number can be the whole of a byte string (`decodeUnsigned`), the front of one
(`readNext`), or the next value of a reader's input (`natural`).
-/

namespace OperationForge.Zarith

/-- Whether another byte of the same number follows. -/
def continues (byte : UInt8) : Bool := 0x80 ≤ byte

/-- The shortest groups of a natural number. -/
def encodeNat (number : Nat) : Bytes :=
  if number < 128 then
    [UInt8.ofNat number]
  else
    UInt8.ofNat (number % 128 + 128) :: encodeNat (number / 128)
termination_by number

/-- The number that groups of seven bits stand for. -/
def natOfGroups : Bytes → Nat
  | [] => 0
  | byte :: rest => byte.toNat % 128 + 128 * natOfGroups rest

/-- Whether the bytes are one number: the last byte ends it and no byte before does. -/
def isNumber (bytes : Bytes) : Bool :=
  match bytes.getLast? with
  | none => false
  | some last => !continues last && bytes.dropLast.all continues

/-- The length of the number at the front of a byte string. -/
def numberLength (bytes : Bytes) : Except WireError Nat :=
  match bytes.findIdx? (fun byte => !continues byte) with
  | some index => .ok (index + 1)
  | none => .error .unterminatedZarith

/-- The bytes of the number at the front of the input.  Input that ends too early is consumed. -/
def scan : Bytes → Read Bytes
  | [] => ⟨.error .unterminatedZarith, []⟩
  | byte :: rest =>
      if continues byte then
        let tail := scan rest
        ⟨tail.outcome.map (byte :: ·), tail.rest⟩
      else
        ⟨.ok [byte], rest⟩

/-- Reads the bytes of one number. -/
def readGroups : Reader Bytes where
  run := scan
  rest_suffix input := by
    induction input with
    | nil => exact List.suffix_rfl
    | cons byte rest ih =>
        unfold scan
        split
        · exact ih.trans (List.suffix_cons byte rest)
        · exact List.suffix_cons byte rest

/-- The bytes of an integer that has to be a natural number. -/
def encodeUnsigned : Int → Except WireError Bytes
  | .ofNat number => .ok (encodeNat number)
  | .negSucc _ => .error .negativeNatural

/-- The natural number that a byte string is, from its first byte to its last. -/
def decodeUnsigned (bytes : Bytes) : Except WireError Nat :=
  if isNumber bytes then .ok (natOfGroups bytes) else .error .malformedZarith

/-- The natural number at the front of a byte string, and how many bytes it takes up. -/
def readNext (bytes : Bytes) : Except WireError (Nat × Nat) := do
  let length ← numberLength bytes
  return (natOfGroups (bytes.take length), length)

/-- The natural number that an integer is. -/
def natOfInt : Int → Except WireError Nat
  | .ofNat number => .ok number
  | .negSucc _ => .error .negativeNatural

/-- Natural numbers on the wire. -/
def natural : Format Nat where
  read := natOfGroups <$> readGroups
  write number := .wrote (encodeNat number)

@[simp] theorem natOfGroups_encodeNat (number : Nat) : natOfGroups (encodeNat number) = number := by
  fun_induction encodeNat number with
  | case1 number small => simp [natOfGroups]; omega
  | case2 number large ih => simp [natOfGroups, ih]; omega

theorem encodeNat_ne_nil (number : Nat) : encodeNat number ≠ [] := by
  unfold encodeNat
  split <;> simp

end OperationForge.Zarith
