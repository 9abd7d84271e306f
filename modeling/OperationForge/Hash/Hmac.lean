import OperationForge.Hash.Sha256

/-!
# Keyed SHA-256

The message authentication code HMAC over SHA-256, for keys of at most one block.
-/

namespace OperationForge.Hmac

/-- A key filled up with zeros to a block of 64 bytes, each byte combined with `mask`. -/
def paddedKey (mask : UInt8) (key : Bytes) : Bytes :=
  (key ++ List.replicate (64 - key.length) 0).map (· ^^^ mask)

/-- The code of a message under a key of at most 64 bytes. -/
def code (key message : Bytes) : FixedBytes 32 :=
  Sha256.digest (paddedKey 0x5c key ++ (Sha256.digest (paddedKey 0x36 key ++ message)).toList)

end OperationForge.Hmac
