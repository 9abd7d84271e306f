import OperationForge.Bytes

/-!
# Hexadecimal digits

Digits are written in lowercase.  A byte takes up two of them, and a number as many as it needs.
-/

namespace OperationForge.Hex

/-- The lowercase hexadecimal digit of a number below sixteen. -/
def digit (number : Nat) : Char :=
  if number < 10 then Char.ofNat ('0'.toNat + number) else Char.ofNat ('a'.toNat + number - 10)

/-- The number of a hexadecimal digit of either case. -/
def value? (char : Char) : Option Nat :=
  if char.isDigit then some (char.toNat - '0'.toNat)
  else if 'a' ≤ char ∧ char ≤ 'f' then some (char.toNat - 'a'.toNat + 10)
  else if 'A' ≤ char ∧ char ≤ 'F' then some (char.toNat - 'A'.toNat + 10)
  else none

/-- The digits of a number, without leading zeros; zero has one digit. -/
def digits (number : Nat) : List Char :=
  if number = 0 then [digit 0] else (Numeral.digits 16 number).map digit

/-- A number as hexadecimal digits. -/
def number (value : Nat) : String :=
  String.ofList (digits value)

/-- A byte as two hexadecimal digits. -/
def byte (b : UInt8) : String :=
  String.ofList [digit (b.toNat / 16), digit (b.toNat % 16)]

/-- A byte string as hexadecimal digits. -/
def encode (bytes : Bytes) : String :=
  String.join (bytes.map byte)

/-- The byte string of pairs of hexadecimal digits. -/
def decode? : List Char → Option Bytes
  | [] => some []
  | [_] => none
  | high :: low :: rest => do
      let high ← value? high
      let low ← value? low
      let bytes ← decode? rest
      return UInt8.ofNat (16 * high + low) :: bytes

end OperationForge.Hex
