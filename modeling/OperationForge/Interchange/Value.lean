import OperationForge.Operation.Error
import OperationForge.Text.Binary64
import OperationForge.Text.Quoted

/-!
# Interchange values

Data formats that describe themselves offer values of the few types here.  A value of another type
than the wanted one is refused with a message that shows what was offered and what was expected.
-/

namespace OperationForge.Interchange

/-- A value that a data format offers. -/
inductive Value where
  | null
  | bool (value : Bool)
  | integer (value : Int)
  | float (value : Binary64.Number)
  | string (value : String)
  | bytes (value : Bytes)
  | sequence (items : List Value)
  | map

namespace Value

/-- A whole number whose magnitude fits a word of 64 bits.  A negative one that no signed word can
hold is offered as a floating point number, and so is a zero with a sign. -/
def ofWord (negative : Bool) (magnitude : Nat) : Value :=
  if !negative then integer magnitude
  else if 0 < magnitude ∧ magnitude ≤ Nat.pow 2 63 then integer (-magnitude)
  else float ⟨true, Binary64.nearest magnitude 1⟩

/-- The digits that characters write. -/
def digitsOf? (chars : List Char) : Option (List Nat) :=
  if chars.all Char.isDigit then some (chars.map fun char => char.toNat - '0'.toNat) else none

/-- The exponent of a literal, with or without a sign. -/
def exponentOf? : List Char → Option Int
  | '-' :: chars => (digitsOf? chars).map fun digits => -(Numeral.value 10 digits : Int)
  | '+' :: chars => (digitsOf? chars).map fun digits => Numeral.value 10 digits
  | chars => (digitsOf? chars).map fun digits => Numeral.value 10 digits

/-- Takes digits into a significand as long as that fits a word of 64 bits.  The digits from the
first one that does not fit are left over. -/
def absorb (significand : Nat) : (digits : List Nat) → Nat × List Nat
  | [] => (significand, [])
  | digit :: rest =>
      if 10 * significand + digit < Nat.pow 2 64 then absorb (10 * significand + digit) rest
      else (significand, digit :: rest)

/-- The number of a literal.  It is a floating point number if it has a point, an exponent or more
digits than fit a word.  Digits that do not fit only count: those before the point make the number
ten times greater, and those after it are passed over.  A number past the limit is none. -/
def ofLiteral? (literal : List Char) : Option Value := do
  let negative := literal.head? = some '-'
  let unsigned := if negative then literal.drop 1 else literal
  let isMantissa (char : Char) : Bool := char ≠ 'e' && char ≠ 'E'
  let mantissa := unsigned.takeWhile isMantissa
  let whole ← digitsOf? (mantissa.takeWhile (· ≠ '.'))
  let fraction ← digitsOf? ((mantissa.dropWhile (· ≠ '.')).drop 1)
  let exponent ← exponentOf? ((unsigned.dropWhile isMantissa).drop 1)
  let (start, skipped) := absorb 0 whole
  if whole.length = unsigned.length ∧ skipped = [] then
    return ofWord negative start
  let (significand, passed) := absorb start fraction
  let places : Int := fraction.length - passed.length
  let magnitude ← Binary64.Magnitude.ofScaled? significand (exponent + skipped.length - places)
  return float ⟨negative, magnitude⟩

/-- How messages show what was offered. -/
def describe : Value → String
  | null => "null"
  | bool value => s!"boolean `{value}`"
  | integer value => s!"integer `{value}`"
  | float value => s!"floating point `{value.text}`"
  | string value => s!"string {Text.quote value}"
  | bytes _ => "byte array"
  | sequence _ => "sequence"
  | map => "map"

end Value

/-- Why an offered value was refused. -/
inductive Refusal where
  /-- The value is not of the wanted type. -/
  | invalidType (offered : Value) (expected : String)
  /-- The number is out of the wanted range. -/
  | invalidValue (offered : Int) (expected : String)
  /-- The text is not the one of a key or signature. -/
  | key (error : KeyError)
  /-- The text is not the one of an address or identifier. -/
  | operation (error : OperationError)
  /-- The bytes are not those of a value. -/
  | wire (error : WireError)

/-- The wording of a refusal. -/
def Refusal.message : Refusal → String
  | invalidType offered expected => s!"invalid type: {offered.describe}, expected {expected}"
  | invalidValue offered expected =>
      s!"invalid value: {(Value.integer offered).describe}, expected {expected}"
  | key error => error.message
  | operation error => error.message
  | wire error => error.message

/-- The byte that an item of a sequence is. -/
def Value.toByte : Value → Except Refusal UInt8
  | integer value =>
      if 0 ≤ value ∧ value < 256 then .ok (UInt8.ofNat value.toNat)
      else .error (.invalidValue value "u8")
  | other => .error (.invalidType other "u8")

end OperationForge.Interchange
