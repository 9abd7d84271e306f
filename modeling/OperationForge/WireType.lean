import OperationForge.Operation.Basic
import OperationForge.Zarith.Integer

/-!
# The wire types

A description of every type whose values mark their own end on the wire, together with its values
and its format.  Operations are not among them: their contents run to the end of the input.
-/

namespace OperationForge

/-- A type whose values mark their own end on the wire. -/
inductive WireType where
  | uint8
  | int8
  | uint16
  | int16
  | uint32
  | int32
  | uint64
  | int64
  | bool
  | block (size : Nat)
  | option (inner : WireType)
  | blob (bound : Nat)
  | natural
  | integer
  | publicKey
  | keyHash
  | address
  | identifier (kind : Prefix)
  | entrypoint
  | parameters
  | script
  | manager
  | revelation
  | transaction
  | origination
  | delegation
  | endorsement
  | contents
  deriving DecidableEq, Repr

namespace WireType

/-- The values of a wire type. -/
def Value : WireType → Type
  | uint8 => UInt8
  | int8 => Int8
  | uint16 => UInt16
  | int16 => Int16
  | uint32 => UInt32
  | int32 => Int32
  | uint64 => UInt64
  | int64 => Int64
  | bool => Bool
  | block size => FixedBytes size
  | option inner => Option inner.Value
  | blob bound => Blob bound
  | natural => Nat
  | integer => Int
  | publicKey => PublicKey
  | keyHash => KeyHash
  | address => Address
  | identifier kind => Identifier kind
  | entrypoint => Entrypoint
  | parameters => Parameters
  | script => Script
  | manager => Manager
  | revelation => Revelation
  | transaction => Transaction
  | origination => Origination
  | delegation => Delegation
  | endorsement => Endorsement
  | contents => Contents

/-- The format of a wire type. -/
def format : (type : WireType) → Format type.Value
  | uint8 => Format.uint8
  | int8 => Format.int8
  | uint16 => Format.uint16
  | int16 => Format.int16
  | uint32 => Format.uint32
  | int32 => Format.int32
  | uint64 => Format.uint64
  | int64 => Format.int64
  | bool => Format.bool
  | block size => Format.block size
  | option inner => inner.format.option
  | blob bound => Blob.format bound
  | natural => Zarith.natural
  | integer => Zarith.integer
  | publicKey => PublicKey.format
  | keyHash => KeyHash.format
  | address => Address.format
  | identifier kind => Identifier.format kind
  | entrypoint => Entrypoint.format
  | parameters => Parameters.format
  | script => Script.format
  | manager => Manager.format
  | revelation => Revelation.format
  | transaction => Transaction.format
  | origination => Origination.format
  | delegation => Delegation.format
  | endorsement => Endorsement.format
  | contents => Contents.format

end WireType

end OperationForge
