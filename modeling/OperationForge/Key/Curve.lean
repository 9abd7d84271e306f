import OperationForge.Base58.Prefix

/-!
# Curves of keys

Keys live on one of three curves.  The curve decides the tag of a key or key hash on the wire, the
prefixes of its texts and the length of its bytes.
-/

namespace OperationForge

/-- The curve of a key. -/
inductive Curve where
  | ed25519
  | secp256k1
  | p256
  deriving DecidableEq, Repr

namespace Curve

/-- How messages name a curve. -/
def name : Curve → String
  | ed25519 => "ed25519"
  | secp256k1 => "secp256k1"
  | p256 => "p256"

/-- The tag of a curve on the wire. -/
def tag : Curve → UInt8
  | ed25519 => 0
  | secp256k1 => 1
  | p256 => 2

/-- The curve with the given tag. -/
def ofTag? (tag : UInt8) : Option Curve :=
  [ed25519, secp256k1, p256].find? (fun curve => curve.tag = tag)

@[simp] theorem ofTag?_tag (curve : Curve) : ofTag? curve.tag = some curve := by
  cases curve <;> rfl

/-- What texts of the hashes of public keys carry. -/
def keyHashKind : Curve → Prefix
  | ed25519 => .ed25519PublicKeyHash
  | secp256k1 => .secp256k1PublicKeyHash
  | p256 => .p256PublicKeyHash

/-- The curve whose key hashes are texts of the given kind. -/
def ofKeyHashKind? : Prefix → Option Curve
  | .ed25519PublicKeyHash => some ed25519
  | .secp256k1PublicKeyHash => some secp256k1
  | .p256PublicKeyHash => some p256
  | _ => none

/-- What texts of public keys carry. -/
def publicKeyKind : Curve → Prefix
  | ed25519 => .ed25519PublicKey
  | secp256k1 => .secp256k1PublicKey
  | p256 => .p256PublicKey

/-- The curve whose public keys are texts of the given kind. -/
def ofPublicKeyKind? : Prefix → Option Curve
  | .ed25519PublicKey => some ed25519
  | .secp256k1PublicKey => some secp256k1
  | .p256PublicKey => some p256
  | _ => none

/-- What texts of secret keys carry. -/
def secretKeyKind : Curve → Prefix
  | ed25519 => .ed25519SecretKey
  | secp256k1 => .secp256k1SecretKey
  | p256 => .p256SecretKey

/-- The curve whose secret keys are texts of the given kind. -/
def ofSecretKeyKind? : Prefix → Option Curve
  | .ed25519SecretKey => some ed25519
  | .secp256k1SecretKey => some secp256k1
  | .p256SecretKey => some p256
  | _ => none

/-- The length of a public key.  Keys on the latter two curves are compressed points. -/
def publicKeyLength : Curve → Nat
  | ed25519 => 32
  | secp256k1 | p256 => 33

/-- The length of a secret key: a seed with its public key, or a scalar. -/
def secretKeyLength : Curve → Nat
  | ed25519 => 64
  | secp256k1 | p256 => 32

end Curve

end OperationForge
