import OperationForge.Account.Origin
import OperationForge.Key.Secret
import OperationForge.Key.Signature

/-!
# The text types

A description of every type whose values are shown as checked texts, together with its values, what
their texts carry, and how texts are read.
-/

namespace OperationForge

/-! ## What the texts of a type carry -/

namespace Address

/-- What texts of addresses can carry. -/
def textKinds : List Prefix :=
  [.ed25519PublicKeyHash, .secp256k1PublicKeyHash, .p256PublicKeyHash, .contractHash]

/-- The prefix and the payload of the text of an address. -/
def content : Address → Prefix × Bytes
  | implicit owner => (owner.curve.keyHashKind, owner.hash.toList)
  | originated hash => (.contractHash, hash.toList)

end Address

/-- The prefix and the payload of the text of an identifier. -/
def Identifier.content {kind : Prefix} (identifier : Identifier kind) : Prefix × Bytes :=
  (kind, identifier.bytes.toList)

/-- The prefix and the payload of the text of a public key. -/
def PublicKey.content (key : PublicKey) : Prefix × Bytes :=
  (key.curve.publicKeyKind, key.bytes.toList)

/-- The prefix and the payload of the text of a secret key. -/
def SecretKey.content (key : SecretKey) : Prefix × Bytes :=
  (key.curve.secretKeyKind, key.bytes.toList)

/-- The prefix and the payload of the text of a seed. -/
def Seed.content (seed : Seed) : Prefix × Bytes :=
  (.ed25519Seed, seed.bytes.toList)

/-- The prefix and the payload of the text of a signature. -/
def Signature.content (signature : Signature) : Prefix × Bytes :=
  (signature.kind.textKind, signature.bytes.toList)

/-! ## The types -/

/-- A type whose values have a checked text. -/
inductive TextType where
  | address
  | blockId
  | operationId
  | publicKey
  | secretKey
  | seed
  | signature
  deriving DecidableEq, Repr

namespace TextType

/-- The values of a text type. -/
def Value : TextType → Type
  | address => Address
  | blockId => BlockId
  | operationId => OperationId
  | publicKey => PublicKey
  | secretKey => SecretKey
  | seed => Seed
  | signature => Signature

/-- The errors of reading a text. -/
def Failure : TextType → Type
  | address | blockId | operationId => OperationError
  | publicKey | secretKey | seed | signature => KeyError

/-- How an error in a checked text is reported. -/
def failure : (type : TextType) → Base58Error → type.Failure
  | address | blockId | operationId => OperationError.base58
  | publicKey | secretKey | seed | signature => KeyError.base58

/-- What the texts of a type can carry. -/
def kinds : TextType → List Prefix
  | address => Address.textKinds
  | blockId => [.blockHash]
  | operationId => [.operationHash]
  | publicKey => PublicKey.textKinds
  | secretKey => SecretKey.textKinds
  | seed => [.ed25519Seed]
  | signature => Signature.textKinds

/-- The prefix and the payload of the text of a value. -/
def content : (type : TextType) → type.Value → Prefix × Bytes
  | address => Address.content
  | blockId => Identifier.content
  | operationId => Identifier.content
  | publicKey => PublicKey.content
  | secretKey => SecretKey.content
  | seed => Seed.content
  | signature => Signature.content

/-- The text of a value, as it is shown: its payload has to be as long as its prefix says. -/
def display (type : TextType) (value : type.Value) : Except Base58Error String :=
  CheckedText.encode (type.content value).1 (type.content value).2

/-- The text of a value. -/
def text : (type : TextType) → type.Value → String
  | address => Address.text
  | blockId => Identifier.text
  | operationId => Identifier.text
  | publicKey => PublicKey.text
  | secretKey => SecretKey.text
  | seed => Seed.text
  | signature => Signature.text

/-- The value of a text. -/
def ofText : (type : TextType) → String → Except type.Failure type.Value
  | address => Address.ofText
  | blockId => Identifier.ofText .blockHash
  | operationId => Identifier.ofText .operationHash
  | publicKey => PublicKey.ofText
  | secretKey => SecretKey.ofText
  | seed => Seed.ofText
  | signature => Signature.ofText

end TextType

end OperationForge
