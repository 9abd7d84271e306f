/-!
# Residues

Arithmetic modulo a number `modulus` is that of `Fin modulus`.  This module adds powers, and with
them inverses and square roots for a prime modulus.
-/

namespace OperationForge.Residue

/-- Whether a number can be a modulus: it is not zero. -/
abbrev IsModulus (number : Nat) : Prop := @NeZero Nat Zero.ofOfNat0 number

variable {modulus : Nat} [IsModulus modulus]

/-- A power, by repeated squaring. -/
def power (base : Fin modulus) (exponent : Nat) : Fin modulus :=
  if exponent = 0 then
    1
  else
    let root := power base (exponent / 2)
    if exponent % 2 = 1 then root * root * base else root * root
termination_by exponent

/-- The inverse of a residue other than zero, for a prime modulus.  Zero has the value zero. -/
def inverse (residue : Fin modulus) : Fin modulus :=
  power residue (modulus - 2)

/-- A square root, for a prime modulus that is three modulo four. -/
def squareRoot? (residue : Fin modulus) : Option (Fin modulus) :=
  let root := power residue ((modulus + 1) / 4)
  if root * root = residue then some root else none

/-- Whether the least natural number of the residue is odd. -/
def isOdd (residue : Fin modulus) : Bool :=
  residue.val % 2 == 1

/-- The one of a residue and its negative that is odd or even as asked. -/
def withParity? (odd : Bool) (residue : Fin modulus) : Option (Fin modulus) :=
  [residue, -residue].find? (fun candidate => isOdd candidate == odd)

end OperationForge.Residue
