import OperationForge.Operation.Error

/-!
# Identifiers of blocks and operations

Blocks and operations are identified by hashes of 32 bytes.  The type of an identifier says what its
text carries, so the hash of a block is never taken for the hash of an operation.
-/

namespace OperationForge

/-- A hash of 32 bytes whose text is of the given kind. -/
@[ext] structure Identifier (kind : Prefix) where
  bytes : FixedBytes 32
  deriving DecidableEq

/-- The block that an operation is anchored to. -/
abbrev BlockId := Identifier .blockHash

/-- A signed operation. -/
abbrev OperationId := Identifier .operationHash

namespace Identifier

variable {kind : Prefix}

/-- The bytes of the hash. -/
def format (kind : Prefix) : Format (Identifier kind) :=
  (Format.block 32).translate Identifier.mk Identifier.bytes

/-- The text of an identifier. -/
def text (identifier : Identifier kind) : String :=
  Base58.textOf kind identifier.bytes.toList

/-- The identifier of a text. -/
def ofText (kind : Prefix) (text : String) : Except OperationError (Identifier kind) := do
  let bytes ← (CheckedText.decodeSized kind 32 text).mapError .base58
  return ⟨bytes⟩

end Identifier

end OperationForge
