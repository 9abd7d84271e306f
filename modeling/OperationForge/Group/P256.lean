import OperationForge.Group.Weierstrass

/-!
# The curve P-256

The curve `y² = x³ - 3 x + b`, whose field has `2 ^ 256 - 2 ^ 224 + 2 ^ 192 + 2 ^ 96 - 1` elements.
-/

namespace OperationForge.P256

/-- The number of field elements. -/
def fieldSize : Nat :=
  Nat.pow 2 256 - Nat.pow 2 224 + Nat.pow 2 192 + Nat.pow 2 96 - 1

/-- The number of points of the curve. -/
def groupOrder : Nat :=
  0xffffffff00000000ffffffffffffffffbce6faada7179e84f3b9cac2fc632551

instance : Residue.IsModulus fieldSize := ⟨by decide⟩

/-- The curve and its base point. -/
def curve : Weierstrass.Curve fieldSize where
  a := -3
  b := 0x5ac635d8aa3a93e7b3ebbd55769886bc651d06b0cc53b0f63bce3c3e27d2604b
  order := groupOrder
  base := .ofAffine
    0x6b17d1f2e12c4247f8bce6e563a440f277037d812deb33a0f4a13945d898c296
    0x4fe342e2fe1a7f9b8ee7eb4a7c0f9e162bce33576b315ececbb6406837bf51f5

end OperationForge.P256
