import OperationForge.Key.Curve

/-!
# Kinds of signatures

A signature is labelled with the curve that it was made on, or as a signature on any curve.
-/

namespace OperationForge

/-- What a signature says about the curve that it was made on. -/
inductive SignatureKind where
  | onCurve (curve : Curve)
  | generic
  deriving DecidableEq, Repr

namespace SignatureKind

/-- How messages name a kind of signature. -/
def name : SignatureKind → String
  | onCurve curve => curve.name
  | generic => "generic"

/-- What texts of signatures carry. -/
def textKind : SignatureKind → Prefix
  | onCurve .ed25519 => .ed25519Signature
  | onCurve .secp256k1 => .secp256k1Signature
  | onCurve .p256 => .p256Signature
  | generic => .genericSignature

/-- The kind of the signatures that are texts of the given kind. -/
def ofTextKind? : Prefix → Option SignatureKind
  | .ed25519Signature => some (onCurve .ed25519)
  | .secp256k1Signature => some (onCurve .secp256k1)
  | .p256Signature => some (onCurve .p256)
  | .genericSignature => some generic
  | _ => none

end SignatureKind

end OperationForge
