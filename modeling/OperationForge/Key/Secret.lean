import OperationForge.Key.Public
import OperationForge.Signing.Ecdsa
import OperationForge.Signing.Ed25519

/-!
# Secret keys

A secret key is a curve and its secret bytes.  An Ed25519 key is a seed followed by its public key;
a key on another curve is a scalar.  Whether the bytes are in order is found out when the key is
used.
-/

namespace OperationForge

/-- A secret key. -/
structure SecretKey where
  curve : Curve
  bytes : FixedBytes curve.secretKeyLength
  deriving DecidableEq

/-- The seed of an Ed25519 key. -/
structure Seed where
  bytes : FixedBytes 32
  deriving DecidableEq

namespace SecretKey

/-- The key with the given bytes, if there are as many as keys on the curve have. -/
def ofBytes (curve : Curve) (bytes : Bytes) : Except KeyError SecretKey :=
  match FixedBytes.ofList? curve.secretKeyLength bytes with
  | some block => .ok ⟨curve, block⟩
  | none => .error (.invalidKey curve (.badLength bytes.length))

/-- The text of a key. -/
def text (key : SecretKey) : String :=
  Base58.textOf key.curve.secretKeyKind key.bytes.toList

/-- What messages show in place of a key. -/
def redacted (key : SecretKey) : String := s!"PrivateKey({key.curve.name}, <redacted>)"

/-- What texts of secret keys can carry. -/
def textKinds : List Prefix :=
  [.ed25519SecretKey, .secp256k1SecretKey, .p256SecretKey]

/-- The key of a text. -/
def ofText (text : String) : Except KeyError SecretKey := do
  let (textKind, payload) ← (CheckedText.decodeAs textKinds text).mapError .base58
  match Curve.ofSecretKeyKind? textKind with
  | some curve => ofBytes curve payload
  | none => throw (.base58 (.unexpectedPrefix textKind))

/-- The seed of a keypair.  The public half has to be a point first, and then the one that the seed
gives. -/
def seedOfKeypair (pair : FixedBytes 64) : Except KeyError (FixedBytes 32) :=
  let seed : FixedBytes 32 := ⟨pair.toList.take 32, by simp⟩
  let half : FixedBytes 32 := ⟨pair.toList.drop 32, by simp⟩
  match Edwards25519.Point.decompress? half with
  | none => .error (.invalidKey .ed25519 .notOnCurve)
  | some _ =>
      if Ed25519.publicKey seed = half then .ok seed
      else .error (.invalidKey .ed25519 .mismatchedKeypair)

/-- The scalar of a key on the given curve, which is neither zero nor as great as the number of
points. -/
def scalarOfBytes (curve : Curve) (scheme : Ecdsa.Scheme) (bytes : FixedBytes 32) :
    Except KeyError Nat :=
  let secret := BigEndian.decode bytes.toList
  if Ecdsa.isSecret scheme secret then .ok secret else .error (.invalidKey curve .rejected)

/-- The public key of a secret key. -/
def publicKey : SecretKey → Except KeyError PublicKey
  | ⟨.ed25519, pair⟩ => do
      let seed ← seedOfKeypair pair
      return ⟨.ed25519, Ed25519.publicKey seed⟩
  | ⟨.secp256k1, bytes⟩ => do
      let secret ← scalarOfBytes .secp256k1 Ecdsa.secp256k1 bytes
      return ⟨.secp256k1, Ecdsa.publicKey Ecdsa.secp256k1 secret⟩
  | ⟨.p256, bytes⟩ => do
      let secret ← scalarOfBytes .p256 Ecdsa.p256 bytes
      return ⟨.p256, Ecdsa.publicKey Ecdsa.p256 secret⟩

end SecretKey

namespace Seed

/-- The keypair of a seed. -/
def secretKey (seed : Seed) : SecretKey :=
  ⟨.ed25519, seed.bytes.append (Ed25519.publicKey seed.bytes)⟩

/-- The text of a seed. -/
def text (seed : Seed) : String :=
  Base58.textOf .ed25519Seed seed.bytes.toList

/-- What messages show in place of a seed. -/
def redacted (_ : Seed) : String := "PrivateKeySeed(<redacted>)"

/-- The seed of a text. -/
def ofText (text : String) : Except KeyError Seed := do
  let bytes ← (CheckedText.decodeSized .ed25519Seed 32 text).mapError .base58
  return ⟨bytes⟩

end Seed

end OperationForge
