import OperationForge.Wire.Output
import OperationForge.Wire.Reader

/-!
# Wire formats

A format pairs the reader of a type with its writer.  This module holds the pair, its two uses on
whole byte strings, and the formats that every other format is built from: byte blocks, fixed width
integers, Booleans and optional values.
-/

namespace OperationForge

/-- How values of a type are read from the wire and written to it. -/
structure Format (α : Type) where
  read : Reader α
  write : α → Output

namespace Format

variable {α β : Type}

/-- The bytes of a value. -/
def encode (format : Format α) (value : α) : Except WireError Bytes :=
  (format.write value).toExcept

/-- The value whose bytes make up the whole input. -/
def decode (format : Format α) (input : Bytes) : Except WireError α :=
  format.read.exactly input

/-- The format of a type whose values correspond to those of another type. -/
def translate (format : Format α) (forth : α → β) (back : β → α) : Format β where
  read := forth <$> format.read
  write value := format.write (back value)

/-- A block of bytes, without a length. -/
def block (size : Nat) : Format (FixedBytes size) where
  read := Reader.take size
  write value := .wrote value.toList

/-- A number of `width` bytes, most significant first. -/
def bigEndian (width : Nat) (ofNat : Nat → α) (toNat : α → Nat) : Format α :=
  (block width).translate (fun value => ofNat (BigEndian.decode value.toList))
    (fun value => BigEndian.fixed width (toNat value))

/-- One byte. -/
def uint8 : Format UInt8 := bigEndian 1 UInt8.ofNat UInt8.toNat

/-- Two bytes. -/
def uint16 : Format UInt16 := bigEndian 2 UInt16.ofNat UInt16.toNat

/-- Four bytes. -/
def uint32 : Format UInt32 := bigEndian 4 UInt32.ofNat UInt32.toNat

/-- Eight bytes. -/
def uint64 : Format UInt64 := bigEndian 8 UInt64.ofNat UInt64.toNat

/-- One byte, in two's complement. -/
def int8 : Format Int8 := uint8.translate Int8.ofUInt8 Int8.toUInt8

/-- Two bytes, in two's complement. -/
def int16 : Format Int16 := uint16.translate Int16.ofUInt16 Int16.toUInt16

/-- Four bytes, in two's complement. -/
def int32 : Format Int32 := uint32.translate Int32.ofUInt32 Int32.toUInt32

/-- Eight bytes, in two's complement. -/
def int64 : Format Int64 := uint64.translate Int64.ofUInt64 Int64.toUInt64

/-- The truth value that a flag byte stands for. -/
def flag? (byte : UInt8) : Option Bool :=
  if byte = 0x00 then some false else if byte = 0xff then some true else none

/-- A full byte, `00` for false and `ff` for true. -/
def bool : Format Bool where
  read := Reader.choose .bool flag?
  write value := .wrote [if value then 0xff else 0x00]

/-- A flag that says whether there is a value, and then the value. -/
def option (format : Format α) : Format (Option α) where
  read := do
    if ← bool.read then
      some <$> format.read
    else
      pure none
  write
    | none => bool.write false
    | some value => bool.write true ++ format.write value

end Format

end OperationForge
