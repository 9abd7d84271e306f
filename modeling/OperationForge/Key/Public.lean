import OperationForge.Group.Edwards25519
import OperationForge.Group.Secp256k1
import OperationForge.Hash.Blake2b
import OperationForge.Key.Error
import OperationForge.Wire.Format

/-!
# Public keys

A public key is a curve and as many bytes as keys on it have.  The bytes need not be a point: that
is found out only when the key is taken as a `CurvePoint`.
-/

namespace OperationForge

/-- A public key. -/
structure PublicKey where
  curve : Curve
  bytes : FixedBytes curve.publicKeyLength
  deriving DecidableEq

/-- The point that a public key stands for.  An Edwards point remembers the bytes it was read
from. -/
inductive CurvePoint where
  | ed25519 (bytes : FixedBytes 32) (point : Edwards25519.Point)
  | secp256k1 (point : Weierstrass.Point Secp256k1.fieldSize)

namespace PublicKey

/-- The key with the given bytes, if there are as many as keys on the curve have. -/
def ofBytes (curve : Curve) (bytes : Bytes) : Except KeyError PublicKey :=
  match FixedBytes.ofList? curve.publicKeyLength bytes with
  | some block => .ok ⟨curve, block⟩
  | none => .error (.invalidKey curve (.badLength bytes.length))

/-- The hash that names the account of a key. -/
def hash (key : PublicKey) : FixedBytes 20 :=
  Blake2b.digest160 key.bytes.toList

/-- The tag of the curve, and then the bytes. -/
def format : Format PublicKey where
  read := do
    let curve ← Reader.choose .publicKey Curve.ofTag?
    let bytes ← Reader.take curve.publicKeyLength
    pure ⟨curve, bytes⟩
  write key := .wrote [key.curve.tag] ++ .wrote key.bytes.toList

/-- The text of a key. -/
def text (key : PublicKey) : String :=
  Base58.textOf key.curve.publicKeyKind key.bytes.toList

/-- What texts of public keys can carry. -/
def textKinds : List Prefix :=
  [.ed25519PublicKey, .secp256k1PublicKey, .p256PublicKey]

/-- The key of a text. -/
def ofText (text : String) : Except KeyError PublicKey := do
  let (textKind, payload) ← (CheckedText.decodeAs textKinds text).mapError .base58
  match Curve.ofPublicKeyKind? textKind with
  | some curve => ofBytes curve payload
  | none => throw (.base58 (.unexpectedPrefix textKind))

/-- The point of a key.  P-256 keys are never taken as points. -/
def toPoint : PublicKey → Except KeyError CurvePoint
  | ⟨.ed25519, bytes⟩ =>
      match Edwards25519.Point.decompress? bytes with
      | some point => .ok (.ed25519 bytes point)
      | none => .error (.invalidKey .ed25519 .notOnCurve)
  | ⟨.secp256k1, bytes⟩ =>
      match Weierstrass.Point.decompress? Secp256k1.curve bytes with
      | some point => .ok (.secp256k1 point)
      | none => .error (.invalidKey .secp256k1 .rejected)
  | ⟨.p256, _⟩ => .error (.unsupportedCurve .p256)

/-- The key of a point. -/
def ofPoint : CurvePoint → PublicKey
  | .ed25519 bytes _ => ⟨.ed25519, bytes⟩
  | .secp256k1 point => ⟨.secp256k1, point.compress⟩

end PublicKey

end OperationForge
