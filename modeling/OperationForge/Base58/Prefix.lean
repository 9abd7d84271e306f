import OperationForge.Bytes

/-!
# Prefixes of checked texts

A checked text starts its bytes with a prefix, chosen so that the text begins with a marker such as
`tz1` or `edsig`.  The prefix says what kind of payload follows and how long it is.
-/

namespace OperationForge

/-- What a checked text carries. -/
inductive Prefix where
  | blockHash
  | operationHash
  | operationListHash
  | operationListListHash
  | protocolHash
  | contextHash
  | ed25519PublicKeyHash
  | secp256k1PublicKeyHash
  | p256PublicKeyHash
  | cryptoboxPublicKeyHash
  | ed25519Seed
  | ed25519PublicKey
  | secp256k1SecretKey
  | p256SecretKey
  | ed25519EncryptedSeed
  | secp256k1EncryptedSecretKey
  | p256EncryptedSecretKey
  | secp256k1PublicKey
  | p256PublicKey
  | secp256k1Scalar
  | secp256k1Element
  | ed25519SecretKey
  | ed25519Signature
  | secp256k1Signature
  | p256Signature
  | genericSignature
  | chainId
  | contractHash
  deriving DecidableEq, Repr

namespace Prefix

/-- Every prefix, in the order in which reading a text tries them. -/
def all : List Prefix := [
  blockHash, operationHash, operationListHash, operationListListHash, protocolHash, contextHash,
  ed25519PublicKeyHash, secp256k1PublicKeyHash, p256PublicKeyHash, cryptoboxPublicKeyHash,
  ed25519Seed, ed25519PublicKey, secp256k1SecretKey, p256SecretKey, ed25519EncryptedSeed,
  secp256k1EncryptedSecretKey, p256EncryptedSecretKey, secp256k1PublicKey, p256PublicKey,
  secp256k1Scalar, secp256k1Element, ed25519SecretKey, ed25519Signature, secp256k1Signature,
  p256Signature, genericSignature, chainId, contractHash]

theorem mem_all (kind : Prefix) : kind ∈ all := by
  cases kind <;> decide

/-- The place of a prefix among all prefixes. -/
def ordinal (kind : Prefix) : Nat := all.idxOf kind

/-- How many payload bytes follow the prefix. -/
def payloadLength : Prefix → Nat
  | blockHash | operationHash | operationListHash | operationListListHash => 32
  | protocolHash | contextHash => 32
  | ed25519PublicKeyHash | secp256k1PublicKeyHash | p256PublicKeyHash | contractHash => 20
  | cryptoboxPublicKeyHash => 16
  | ed25519Seed | ed25519PublicKey | secp256k1SecretKey | p256SecretKey => 32
  | ed25519EncryptedSeed | secp256k1EncryptedSecretKey | p256EncryptedSecretKey => 56
  | secp256k1PublicKey | p256PublicKey | secp256k1Scalar | secp256k1Element => 33
  | ed25519SecretKey => 64
  | ed25519Signature | secp256k1Signature | p256Signature | genericSignature => 64
  | chainId => 4

/-- The bytes in front of the payload. -/
def bytes : Prefix → Bytes
  | blockHash => [1, 52]
  | operationHash => [5, 116]
  | operationListHash => [133, 233]
  | operationListListHash => [29, 159, 109]
  | protocolHash => [2, 170]
  | contextHash => [79, 199]
  | ed25519PublicKeyHash => [6, 161, 159]
  | secp256k1PublicKeyHash => [6, 161, 161]
  | p256PublicKeyHash => [6, 161, 164]
  | cryptoboxPublicKeyHash => [153, 103]
  | ed25519Seed => [13, 15, 58, 7]
  | ed25519PublicKey => [13, 15, 37, 217]
  | secp256k1SecretKey => [17, 162, 224, 201]
  | p256SecretKey => [16, 81, 238, 189]
  | ed25519EncryptedSeed => [7, 90, 60, 179, 41]
  | secp256k1EncryptedSecretKey => [9, 237, 241, 174, 150]
  | p256EncryptedSecretKey => [9, 48, 57, 115, 171]
  | secp256k1PublicKey => [3, 254, 226, 86]
  | p256PublicKey => [3, 178, 139, 127]
  | secp256k1Scalar => [38, 248, 136]
  | secp256k1Element => [5, 92, 0]
  | ed25519SecretKey => [43, 246, 78, 7]
  | ed25519Signature => [9, 245, 205, 134, 18]
  | secp256k1Signature => [13, 115, 101, 19, 63]
  | p256Signature => [54, 240, 44, 52]
  | genericSignature => [4, 130, 43]
  | chainId => [87, 82, 0]
  | contractHash => [2, 90, 121]

/-- No prefix starts the bytes of another one. -/
theorem eq_of_bytes_prefix {left right : Prefix} (starts : left.bytes <+: right.bytes) :
    left = right := by
  revert starts
  cases left <;> cases right <;> decide

end Prefix

end OperationForge
