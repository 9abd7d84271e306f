import OperationForge.Bytes

/-!
# Base 58 numerals

A byte string is written as a number in base 58 over an alphabet without look-alikes.  Leading zero
bytes, which the number does not show, are written as that many leading `1`s.  Every byte string has
one text, and every text over the alphabet has one byte string.
-/

namespace OperationForge.Base58

/-- The digits, from zero up. -/
def alphabet : List Char :=
  "123456789ABCDEFGHJKLMNPQRSTUVWXYZabcdefghijkmnopqrstuvwxyz".toList

/-- The character of a digit. -/
def charOfDigit (digit : Nat) : Char := alphabet.getD digit '1'

/-- The digit that a character stands for. -/
def digitOfChar? (char : Char) : Option Nat := alphabet.findIdx? (· = char)

/-- The text of a byte string. -/
def encode (bytes : Bytes) : String :=
  let zeros := bytes.takeWhile (· = 0)
  let digits := Numeral.digits 58 (BigEndian.decode bytes)
  String.ofList (zeros.map (fun _ => charOfDigit 0) ++ digits.map charOfDigit)

/-- The digits of a text, or the first byte of its first character outside the alphabet. -/
def digits : List Char → Except UInt8 (List Nat)
  | [] => .ok []
  | char :: rest =>
      match digitOfChar? char with
      | some digit => (digits rest).map (digit :: ·)
      | none => .error ((String.utf8EncodeChar char).headD 0)

/-- The byte string of a text, or the first byte of its first character outside the alphabet. -/
def decode (text : String) : Except UInt8 Bytes := do
  let digits ← digits text.toList
  let zeros := digits.takeWhile (· = 0)
  let bytes := Numeral.digits 256 (Numeral.value 58 digits)
  return zeros.map (fun _ => 0) ++ bytes.map UInt8.ofNat

end OperationForge.Base58
