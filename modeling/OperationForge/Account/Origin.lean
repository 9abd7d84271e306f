import OperationForge.Key.Public
import OperationForge.Operation.Identifier

/-!
# Where addresses come from

An address is read from a text or from bytes, belongs to a public key, or is given to the accounts
that an operation originates.
-/

namespace OperationForge

/-- The hash of a public key. -/
def KeyHash.ofPublicKey (key : PublicKey) : KeyHash :=
  ⟨key.curve, key.hash⟩

namespace Address

/-- The implicit account of an Ed25519 key that is a point.  Keys on other curves are refused, after
their point has been looked at. -/
def ofPublicKey (key : PublicKey) : Except OperationError Address := do
  match ← key.toPoint.mapError .key with
  | .ed25519 bytes _ => return implicit ⟨.ed25519, Blake2b.digest160 bytes.toList⟩
  | .secp256k1 _ => throw (.key (.unsupportedCurve key.curve))

/-- The account that an operation originates as its `index`th one, counted from zero. -/
def ofOrigination (operation : OperationId) (index : UInt32) : Address :=
  originated (Blake2b.digest160 (operation.bytes.toList ++ BigEndian.encode 4 index.toNat))

/-- The address of 22 bytes, or of the 21 bytes of a key hash. -/
def ofBytes (bytes : Bytes) : Except OperationError Address :=
  if bytes.length = 22 then
    (format.decode bytes).mapError .wire
  else if bytes.length = 21 then
    ((KeyHash.format.decode bytes).mapError .wire).map implicit
  else
    .error (.addressLength bytes.length)

/-- The 21 bytes of the key hash of an implicit account. -/
def keyHashBytes : Address → Except OperationError (FixedBytes 21)
  | implicit owner => .ok ⟨owner.curve.tag :: owner.hash.toList, by simp⟩
  | originated hash => .error (.notImplicit (originated hash))

/-- The address of a text.  The length of the payload is looked at before its kind. -/
def ofText (text : String) : Except OperationError Address := do
  let (textKind, payload) ← (CheckedText.decode text).mapError .base58
  match FixedBytes.ofList? 20 payload with
  | none => throw (.base58 (.payloadLength textKind 20 payload.length))
  | some hash =>
      match textKind, Curve.ofKeyHashKind? textKind with
      | .contractHash, _ => return originated hash
      | _, some curve => return implicit ⟨curve, hash⟩
      | _, none => throw (.base58 (.unexpectedPrefix textKind))

end Address

end OperationForge
