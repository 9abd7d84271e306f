import OperationForge.Key.Error

/-!
# Signatures

A signature is 64 bytes under a label that says what is known of the curve it was made on.  The
label shows in the text of a signature only; on the wire there are just the bytes.
-/

namespace OperationForge

/-- A signature and its label. -/
@[ext] structure Signature where
  kind : SignatureKind
  bytes : FixedBytes 64
  deriving DecidableEq

namespace Signature

/-- The same bytes under another label. -/
def relabel (signature : Signature) (kind : SignatureKind) : Signature :=
  { signature with kind := kind }

/-- The text of a signature. -/
def text (signature : Signature) : String :=
  Base58.textOf signature.kind.textKind signature.bytes.toList

/-- What texts of signatures can carry. -/
def textKinds : List Prefix :=
  [.ed25519Signature, .secp256k1Signature, .p256Signature, .genericSignature]

/-- The signature of a text. -/
def ofText (text : String) : Except KeyError Signature := do
  let (textKind, payload) ← (CheckedText.decodeAs textKinds text).mapError .base58
  match SignatureKind.ofTextKind? textKind, FixedBytes.ofList? 64 payload with
  | none, _ => throw (.base58 (.unexpectedPrefix textKind))
  | some _, none => throw (.base58 (.payloadLength textKind 64 payload.length))
  | some kind, some bytes => return ⟨kind, bytes⟩

end Signature

end OperationForge
