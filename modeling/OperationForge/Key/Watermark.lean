import OperationForge.Hash.Blake2b

/-!
# Watermarks

A signature covers the hash of a watermark byte and the message.  The watermark says what the
message is for, so a signature of one kind of message is none of another kind.
-/

namespace OperationForge

/-- What a signed message is for. -/
inductive Watermark where
  | blockHeader
  | endorsement
  | operation
  | custom
  | text
  deriving DecidableEq, Repr

namespace Watermark

/-- The byte in front of the message. -/
def byte : Watermark → UInt8
  | blockHeader => 1
  | endorsement => 2
  | operation => 3
  | custom => 4
  | text => 5

/-- The watermark with the given byte. -/
def ofByte? (byte : UInt8) : Option Watermark :=
  [blockHeader, endorsement, operation, custom, text].find? (fun mark => mark.byte = byte)

@[simp] theorem ofByte?_byte (mark : Watermark) : ofByte? mark.byte = some mark := by
  cases mark <;> rfl

/-- The digest that is signed for a message. -/
def signingDigest (mark : Watermark) (message : Bytes) : FixedBytes 32 :=
  Blake2b.digest256 (mark.byte :: message)

end Watermark

end OperationForge
