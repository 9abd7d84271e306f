import OperationForge.Bytes
import OperationForge.Group.Residue

/-!
# Short Weierstrass curves of prime order

The points of `y² = x³ + a x + b` over the field of `modulus` elements, for a prime modulus that is
three modulo four and a curve with a prime number of points.  On such a curve one formula in
projective coordinates adds any two points.

A compressed point is a byte that tells the parity of `y`, and then `x` in 32 bytes.
-/

namespace OperationForge.Weierstrass

variable {modulus : Nat}

/-- The point `(x / z, y / z)`; the neutral element has `z = 0`. -/
structure Point (modulus : Nat) where
  x : Fin modulus
  y : Fin modulus
  z : Fin modulus
  deriving DecidableEq

/-- A curve with a base point that generates all of its points. -/
structure Curve (modulus : Nat) where
  a : Fin modulus
  b : Fin modulus
  /-- The number of points. -/
  order : Nat
  base : Point modulus

namespace Curve

variable [Residue.IsModulus modulus] (curve : Curve modulus)

/-- The neutral element. -/
def zero : Point modulus := ⟨0, 1, 0⟩

/-- The sum of any two points. -/
def add (p q : Point modulus) : Point modulus :=
  let xx := p.x * q.x
  let yy := p.y * q.y
  let zz := p.z * q.z
  let xy := (p.x + p.y) * (q.x + q.y) - (xx + yy)
  let xz := (p.x + p.z) * (q.x + q.z) - (xx + zz)
  let yz := (p.y + p.z) * (q.y + q.z) - (yy + zz)
  let low := yy - (curve.a * xz + 3 * curve.b * zz)
  let high := yy + (curve.a * xz + 3 * curve.b * zz)
  let slope := 3 * xx + curve.a * zz
  let offset := 3 * curve.b * xz + curve.a * (xx - curve.a * zz)
  ⟨xy * low - yz * offset, low * high + slope * offset, yz * high + xy * slope⟩

/-- The sum of `count` copies of a point, by repeated doubling. -/
def times (p : Point modulus) (count : Nat) : Point modulus :=
  if count = 0 then
    zero
  else
    let half := times p (count / 2)
    let double := curve.add half half
    if count % 2 = 1 then curve.add double p else double
termination_by count

/-- The height of the point with the given `x` whose parity is as asked, if there is one. -/
def heightAt? (odd : Bool) (x : Fin modulus) : Option (Fin modulus) := do
  let root ← Residue.squareRoot? (x * x * x + curve.a * x + curve.b)
  Residue.withParity? odd root

/-- The byte in front of a compressed point. -/
def parityTag (odd : Bool) : UInt8 := if odd then 3 else 2

/-- The parity that the byte in front of a compressed point tells.  A point without its parity is
tagged `05` and taken with even `y`. -/
def parityOfTag? (tag : UInt8) : Option Bool :=
  if tag = 2 ∨ tag = 5 then some false else if tag = 3 then some true else none

end Curve

namespace Point

variable [Residue.IsModulus modulus]

/-- The affine coordinate `x` of a point other than the neutral element. -/
def affineX (p : Point modulus) : Fin modulus := p.x * Residue.inverse p.z

/-- The affine coordinate `y` of a point other than the neutral element. -/
def affineY (p : Point modulus) : Fin modulus := p.y * Residue.inverse p.z

/-- The point with the given affine coordinates. -/
def ofAffine (x y : Fin modulus) : Point modulus := ⟨x, y, 1⟩

/-- A point in 33 bytes. -/
def compress (p : Point modulus) : FixedBytes 33 :=
  ⟨Curve.parityTag (Residue.isOdd p.affineY) :: BigEndian.encode 32 p.affineX.val, by simp⟩

/-- The point of a compressed form, if `x` is below the modulus and there is such a point. -/
def decompress? (curve : Curve modulus) (bytes : FixedBytes 33) : Option (Point modulus) :=
  match bytes.toList with
  | [] => none
  | tag :: digits => do
      let odd ← Curve.parityOfTag? tag
      let number := BigEndian.decode digits
      if below : number < modulus then
        let x : Fin modulus := ⟨number, below⟩
        let y ← curve.heightAt? odd x
        return ofAffine x y
      else
        none

end Point

end OperationForge.Weierstrass
