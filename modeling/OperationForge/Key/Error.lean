import OperationForge.Base58.Checked
import OperationForge.Key.SignatureKind

/-!
# Key errors

The causes for which a key cannot be read or used, or a signature does not hold, and their wording.
-/

namespace OperationForge

/-- What is wrong with the bytes of a key. -/
inductive KeyFault where
  | badLength (length : Nat)
  /-- The bytes are no scalar or no point of the curve. -/
  | rejected
  /-- The bytes are no point of the Edwards curve. -/
  | notOnCurve
  /-- The public half is not the one that the seed gives. -/
  | mismatchedKeypair
  deriving DecidableEq, Repr

/-- The wording of a fault. -/
def KeyFault.message : KeyFault → String
  | badLength length => s!"bad length {length}"
  | rejected => "signature error"
  | notOnCurve => "signature error: Cannot decompress Edwards point"
  | mismatchedKeypair => "signature error: Mismatched Keypair detected"

/-- Why a key could not be used, or why a signature does not hold. -/
inductive KeyError where
  | base58 (error : Base58Error)
  /-- There is no such use for keys on this curve. -/
  | unsupportedCurve (curve : Curve)
  /-- Keys on this curve cannot check signatures. -/
  | unsupportedKeyType (curve : Curve)
  /-- The label of the signature does not fit a key that checks it. -/
  | signatureTypeMismatch (kind : SignatureKind)
  | invalidKey (curve : Curve) (fault : KeyFault)
  /-- No signature came out. -/
  | signingFailed (curve : Curve)
  /-- The signature does not hold for the message and the key. -/
  | verificationFailed
  deriving DecidableEq, Repr

/-- The wording of a key error. -/
def KeyError.message : KeyError → String
  | base58 error => s!"base58check: {error.message}"
  | unsupportedCurve curve => s!"unsupported curve {curve.name}"
  | unsupportedKeyType curve => s!"unsupported key type {curve.name} for verification"
  | signatureTypeMismatch kind => s!"signature type {kind.name} does not match key type"
  | invalidKey curve fault => s!"invalid {curve.name} key: {fault.message}"
  | signingFailed curve => s!"signing with {curve.name} key failed: {KeyFault.rejected.message}"
  | verificationFailed => "signature verification failed"

end OperationForge
