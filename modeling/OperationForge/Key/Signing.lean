import OperationForge.Key.Secret
import OperationForge.Key.Signature
import OperationForge.Key.Watermark
import OperationForge.Text.Utf8

/-!
# Signing and checking messages

Signing covers the digest of a watermark and a message.  Ed25519 keys give signatures with their own
label, keys on the other curves give generic ones.  Only Ed25519 keys can check a signature, and
only one with their own label or the generic one.
-/

namespace OperationForge

namespace SecretKey

/-- The signature of a message under a watermark. -/
def sign (key : SecretKey) (mark : Watermark) (message : Bytes) : Except KeyError Signature :=
  let digest := (mark.signingDigest message).toList
  match key with
  | ⟨.ed25519, pair⟩ => do
      let seed ← seedOfKeypair pair
      return ⟨.onCurve .ed25519, Ed25519.sign seed digest⟩
  | ⟨.secp256k1, bytes⟩ => do
      let secret ← scalarOfBytes .secp256k1 Ecdsa.secp256k1 bytes
      match Ecdsa.sign? Ecdsa.secp256k1 secret digest with
      | some signature => return ⟨.generic, signature⟩
      | none => throw (.signingFailed .secp256k1)
  | ⟨.p256, bytes⟩ => do
      let secret ← scalarOfBytes .p256 Ecdsa.p256 bytes
      match Ecdsa.sign? Ecdsa.p256 secret digest with
      | some signature => return ⟨.generic, signature⟩
      | none => throw (.signingFailed .p256)

/-- The signature of a text under the text watermark. -/
def signText (key : SecretKey) (message : String) : Except KeyError Signature :=
  key.sign .text (Utf8.encode message)

end SecretKey

namespace Signature

/-- Whether Ed25519 keys check signatures of a kind. -/
def checkKind : SignatureKind → Except KeyError Unit
  | .onCurve .ed25519 | .generic => .ok ()
  | kind => .error (.signatureTypeMismatch kind)

/-- Checks a signature of a message under a watermark.  The label is looked at first, then the curve
of the key, then its point and last the signature itself. -/
def verify (signature : Signature) (mark : Watermark) (message : Bytes) (key : PublicKey) :
    Except KeyError Unit := do
  checkKind signature.kind
  match key with
  | ⟨.ed25519, bytes⟩ =>
      match Edwards25519.Point.decompress? bytes with
      | none => throw (.invalidKey .ed25519 .notOnCurve)
      | some point =>
          let digest := (mark.signingDigest message).toList
          if Ed25519.verify bytes point digest signature.bytes then return ()
          else throw .verificationFailed
  | ⟨curve, _⟩ => throw (.unsupportedKeyType curve)

/-- Checks a signature of a text under the text watermark. -/
def verifyText (signature : Signature) (message : String) (key : PublicKey) :
    Except KeyError Unit :=
  signature.verify .text (Utf8.encode message) key

end Signature

end OperationForge
