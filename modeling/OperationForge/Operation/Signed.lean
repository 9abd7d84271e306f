import OperationForge.Key.Signing
import OperationForge.Operation.Basic

/-!
# Signed operations

A signed operation is written as the operation and then the 64 bytes of its signature.  The label of
the signature is not written.  Reading takes it from the first entry that has an implicit source:
the curve of that source is the curve of the label.  Where no entry has one, the label is generic,
or strict reading gives up.
-/

namespace OperationForge

/-- An operation and a signature of it. -/
structure SignedOperation where
  operation : Operation
  signature : Signature
  deriving DecidableEq

/-- Where the label of a signature that was read comes from. -/
inductive Inference where
  /-- The curve of the first implicit source. -/
  | fromSource (curve : Curve)
  /-- There is no implicit source. -/
  | fallback
  deriving DecidableEq, Repr

namespace Inference

/-- The label. -/
def kind : Inference → SignatureKind
  | fromSource curve => .onCurve curve
  | fallback => .generic

/-- The inference from one source. -/
def ofSource? : Address → Option Inference
  | .implicit owner => some (fromSource owner.curve)
  | .originated _ => none

/-- The inference from the entries of an operation. -/
def ofOperation (operation : Operation) : Inference :=
  ((operation.contents.filterMap Contents.source?).findSome? ofSource?).getD fallback

end Inference

/-- How operations are read. -/
structure DecodeOptions where
  /-- Whether a label that cannot be told is an error. -/
  strict : Bool := false
  deriving DecidableEq, Repr

namespace DecodeOptions

/-- The operation that makes up the whole input. -/
def decodeOperation (_ : DecodeOptions) (input : Bytes) : Except OperationError Operation :=
  (Operation.format.decode input).mapError .wire

/-- The signed operation that makes up the whole input, and where its label comes from. -/
def decodeInferring (options : DecodeOptions) (input : Bytes) :
    Except OperationError (SignedOperation × Inference) := do
  if enough : 64 ≤ input.length then
    let split := input.length - 64
    let signature : FixedBytes 64 := ⟨input.drop split, by simp only [List.length_drop]; omega⟩
    let operation ← options.decodeOperation (input.take split)
    let inference := Inference.ofOperation operation
    if inference = .fallback && options.strict then
      throw .signatureTypeAmbiguous
    return (⟨operation, ⟨inference.kind, signature⟩⟩, inference)
  else
    throw (.tooShort input.length)

/-- The signed operation that makes up the whole input. -/
def decodeSigned (options : DecodeOptions) (input : Bytes) :
    Except OperationError SignedOperation := do
  let (signed, _) ← options.decodeInferring input
  return signed

end DecodeOptions

namespace SignedOperation

/-- Signs an operation. -/
def sign (operation : Operation) (key : SecretKey) : Except OperationError SignedOperation := do
  let bytes ← (Operation.format.encode operation).mapError .wire
  let signature ← (key.sign .operation bytes).mapError .key
  return ⟨operation, signature⟩

/-- The bytes of the operation, and then those of the signature. -/
def encode (signed : SignedOperation) : Except OperationError Bytes := do
  let bytes ← (Operation.format.encode signed.operation).mapError .wire
  return bytes ++ signed.signature.bytes.toList

/-- The signed operation that makes up the whole input, with a generic label where none can be
told. -/
def decode (input : Bytes) : Except OperationError SignedOperation :=
  DecodeOptions.decodeSigned {} input

/-- `decode`, and where the label comes from. -/
def decodeWithInference (input : Bytes) : Except OperationError (SignedOperation × Inference) :=
  DecodeOptions.decodeInferring {} input

/-- The identifier of a signed operation. -/
def hash (signed : SignedOperation) : Except OperationError OperationId := do
  let bytes ← signed.encode
  return ⟨Blake2b.digest256 bytes⟩

/-- Checks the signature. -/
def verify (signed : SignedOperation) (key : PublicKey) : Except OperationError Unit := do
  let bytes ← (Operation.format.encode signed.operation).mapError .wire
  (signed.signature.verify .operation bytes key).mapError .key

end SignedOperation

end OperationForge
