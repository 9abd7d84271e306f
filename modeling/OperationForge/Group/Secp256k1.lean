import OperationForge.Group.Weierstrass

/-!
# The curve secp256k1

The curve `y² = x³ + 7`, whose field has `2 ^ 256 - 2 ^ 32 - 977` elements.
-/

namespace OperationForge.Secp256k1

/-- The number of field elements. -/
def fieldSize : Nat := Nat.pow 2 256 - Nat.pow 2 32 - 977

/-- The number of points of the curve. -/
def groupOrder : Nat :=
  0xfffffffffffffffffffffffffffffffebaaedce6af48a03bbfd25e8cd0364141

instance : Residue.IsModulus fieldSize := ⟨by decide⟩

/-- The curve and its base point. -/
def curve : Weierstrass.Curve fieldSize where
  a := 0
  b := 7
  order := groupOrder
  base := .ofAffine
    0x79be667ef9dcbbac55a06295ce870b07029bfcdb2dce28d959f2815b16f81798
    0x483ada7726a3c4655da4fbfc0e1108a8fd17b448a68554199c47d08ffb10d4b8

end OperationForge.Secp256k1
