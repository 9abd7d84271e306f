import OperationForge.Bytes

/-!
# Binary floating point numbers and their texts

A floating point number of 64 bits is a multiple of a power of two with a mantissa of 53 bits.  A
decimal number becomes one in two roundings: its digits are rounded first, and then their product
with a power of ten, or their quotient by one.

The text of a number has the fewest digits that round to it; of several such digit strings, the
nearest one.  It is positional from `10 ^ -5` up to `10 ^ 16`, where a whole number ends in `.0`, and
has an exponent with a sign elsewhere.
-/

namespace OperationForge.Binary64

/-- A number that is not negative: `mantissa * 2 ^ exponent`. -/
structure Magnitude where
  mantissa : Nat
  exponent : Int
  deriving DecidableEq, Repr

/-- A number with its sign, which zero has as well. -/
structure Number where
  negative : Bool
  magnitude : Magnitude
  deriving DecidableEq, Repr

/-- `numerator / denominator` times a power of `base`, again as a fraction. -/
def scale (base : Nat) (exponent : Int) (numerator denominator : Nat) : Nat × Nat :=
  if 0 ≤ exponent then (numerator * base.pow exponent.toNat, denominator)
  else (numerator, denominator * base.pow (-exponent).toNat)

/-- A fraction rounded to the nearest whole number, and to the even one of two. -/
def roundEven (numerator denominator : Nat) : Nat :=
  let whole := numerator / denominator
  let twice := 2 * (numerator % denominator)
  if denominator < twice ∨ (denominator = twice ∧ whole % 2 = 1) then whole + 1 else whole

/-- The nearest floating point number to a fraction. -/
def nearest (numerator denominator : Nat) : Magnitude :=
  let size : Int := (Nat.log2 numerator : Int) - Nat.log2 denominator
  let low : Int := max (size - 53) (-1074)
  let round (exponent : Int) : Magnitude :=
    let (top, bottom) := scale 2 (-exponent) numerator denominator
    ⟨roundEven top bottom, exponent⟩
  let fits (value : Magnitude) : Bool := value.mantissa ≤ Nat.pow 2 53
  if fits (round low) then round low else round (low + 1)

namespace Magnitude

/-- The number as a fraction. -/
def fraction (value : Magnitude) : Nat × Nat :=
  scale 2 value.exponent value.mantissa 1

/-- The product, rounded. -/
def product (left right : Magnitude) : Magnitude :=
  nearest (left.fraction.1 * right.fraction.1) (left.fraction.2 * right.fraction.2)

/-- The quotient by a number other than zero, rounded. -/
def quotient (left right : Magnitude) : Magnitude :=
  nearest (left.fraction.1 * right.fraction.2) (left.fraction.2 * right.fraction.1)

/-- Whether the number is below the limit of floating point numbers. -/
def isFinite (value : Magnitude) : Bool :=
  value.fraction.1 < Nat.pow 2 1024 * value.fraction.2

/-- The power of ten, rounded. -/
def powerOfTen (exponent : Nat) : Magnitude :=
  nearest (Nat.pow 10 exponent) 1

/-- The greatest power of ten below the limit. -/
def maxPower : Nat := 308

/-- The number divided by a power of ten, in steps that are rounded one by one. -/
def lower (value : Magnitude) (exponent : Nat) : Magnitude :=
  if exponent ≤ maxPower then
    value.quotient (powerOfTen exponent)
  else if value.mantissa = 0 then
    value
  else
    lower (value.quotient (powerOfTen maxPower)) (exponent - maxPower)
termination_by exponent
decreasing_by simp only [maxPower] at *; omega

/-- The number `significand * 10 ^ exponent`, unless it is past the limit. -/
def ofScaled? (significand : Nat) (exponent : Int) : Option Magnitude :=
  let start := nearest significand 1
  if exponent < 0 then
    some (start.lower (-exponent).toNat)
  else if significand = 0 then
    some start
  else if exponent ≤ maxPower then
    let scaled := start.product (powerOfTen exponent.toNat)
    if scaled.isFinite then some scaled else none
  else
    none

end Magnitude

/-- Whether a fraction rounds to the value. -/
def roundsTo (value : Magnitude) (numerator denominator : Nat) : Bool :=
  let other := nearest numerator denominator
  scaled other = scaled value
where
  /-- The whole number of least steps that a value is. -/
  scaled (value : Magnitude) : Nat := value.mantissa * Nat.pow 2 (value.exponent + 1074).toNat

/-- The digits of a fraction rounded to `10 ^ exponent`, if they round to the value: the nearer one
of the two neighbours, or the farther one if only that rounds to the value. -/
def neighbour? (value : Magnitude) (exponent : Int) : Option Nat :=
  let (top, bottom) := value.fraction
  let (numerator, denominator) := scale 10 (-exponent) top bottom
  let rounds (digits : Nat) : Bool :=
    let (number, unit) := scale 10 exponent digits 1
    0 < digits && roundsTo value number unit
  let below := numerator / denominator
  let near := roundEven numerator denominator
  let far := if near = below then below + 1 else below
  if rounds near then some near else if rounds far then some far else none

/-- The power of ten of the first digit of a positive number that is at most `10 ^ bound`. -/
def leadingExponent (numerator denominator : Nat) : (steps : Nat) → (bound : Int) → Int
  | 0, bound => bound
  | steps + 1, bound =>
      let (number, unit) := scale 10 bound 1 1
      if number * denominator ≤ numerator * unit then bound
      else leadingExponent numerator denominator steps (bound - 1)

/-- Ten as a one in the place before, and all other digits as they are. -/
def trim (digits : Nat) (exponent : Int) : Nat × Int :=
  if digits = 10 then (1, exponent + 1) else (digits, exponent)

/-- The shortest digits that round to a value, and the power of ten of the last digit. -/
def shortest (value : Magnitude) : Nat × Int :=
  let (top, bottom) := value.fraction
  let first := leadingExponent top bottom 700 320
  let candidates := (List.range 17).filterMap fun (digits : Nat) =>
    let exponent := first - digits
    (neighbour? value exponent).map fun number => trim number exponent
  candidates.headD (top / bottom, 0)

/-- Digits with a decimal point in their place. -/
def positional (digits : Nat) (exponent : Int) : String :=
  let written := Nat.toDigits 10 digits
  if 0 ≤ exponent then
    String.ofList (written ++ List.replicate exponent.toNat '0' ++ ['.', '0'])
  else
    let places := (-exponent).toNat
    let filled := List.replicate (places + 1 - written.length) '0' ++ written
    let whole := filled.length - places
    String.ofList (filled.take whole ++ ['.'] ++ filled.drop whole)

/-- Digits with a decimal point after the first one, and the power of ten of the first one. -/
def scientific (digits : Nat) (leading : Int) : String :=
  let written := Nat.toDigits 10 digits
  let point := if written.length = 1 then [] else ['.']
  let sign := if 0 ≤ leading then '+' else '-'
  String.ofList (written.take 1 ++ point ++ written.drop 1 ++ ['e', sign] ++
    Nat.toDigits 10 leading.natAbs)

/-- The text of digits, given with the power of ten of the last one. -/
def textOfDigits (digits : Nat) (exponent : Int) : String :=
  let leading := exponent + (Nat.toDigits 10 digits).length - 1
  if -5 ≤ leading ∧ leading < 16 then positional digits exponent else scientific digits leading

/-- The text of a number. -/
def Number.text (number : Number) : String :=
  let sign := if number.negative then "-" else ""
  let (digits, exponent) :=
    if number.magnitude.mantissa = 0 then (0, 0) else shortest number.magnitude
  sign ++ textOfDigits digits exponent

end OperationForge.Binary64
