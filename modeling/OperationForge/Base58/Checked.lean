import OperationForge.Base58.Numeral
import OperationForge.Base58.Prefix
import OperationForge.Hash.Sha256
import OperationForge.Text.Hex

/-!
# Checked texts

A checked text is the base 58 text of a prefix, a payload and a checksum: the first four bytes of
SHA-256 applied twice to everything before it.  `encode` writes one and `decode` reads one back;
`decodeAs` and `decodeSized` also say which prefixes and which length they want.
-/

namespace OperationForge

/-- Why a text is not the checked text that was asked for. -/
inductive Base58Error where
  /-- A character has the given first byte and is no base 58 digit. -/
  | invalidCharacter (byte : UInt8)
  /-- The bytes cannot even hold a checksum. -/
  | tooShort (length : Nat)
  /-- The checksum is not that of the bytes before it. -/
  | checksumMismatch
  /-- No prefix starts the bytes. -/
  | unknownPrefix
  /-- The payload does not have the length that was asked for. -/
  | payloadLength (kind : Prefix) (expected actual : Nat)
  /-- The text carries something else than was asked for. -/
  | unexpectedPrefix (kind : Prefix)
  deriving DecidableEq, Repr

namespace Base58

/-- How many bytes the checksum has. -/
def checksumLength : Nat := 4

/-- The checksum of a byte string. -/
def checksum (body : Bytes) : Bytes :=
  (Sha256.digest (Sha256.digest body).toList).toList.take checksumLength

/-- The text of a payload of any length. -/
def textOf (kind : Prefix) (payload : Bytes) : String :=
  let body := kind.bytes ++ payload
  Base58.encode (body ++ checksum body)

/-- The payload itself, if it has the length that was asked for. -/
def checkLength (kind : Prefix) (expected : Nat) (payload : Bytes) : Except Base58Error Bytes :=
  if payload.length = expected then .ok payload
  else .error (.payloadLength kind expected payload.length)

end Base58

namespace CheckedText

/-- The text of a payload, which has to be as long as its prefix says. -/
def encode (kind : Prefix) (payload : Bytes) : Except Base58Error String := do
  let payload ← Base58.checkLength kind kind.payloadLength payload
  return Base58.textOf kind payload

/-- The bytes before a checksum that is theirs. -/
def dropChecksum (bytes : Bytes) : Except Base58Error Bytes :=
  if bytes.length ≤ Base58.checksumLength then
    .error (.tooShort bytes.length)
  else
    let body := bytes.take (bytes.length - Base58.checksumLength)
    if Base58.checksum body = bytes.drop body.length then .ok body else .error .checksumMismatch

/-- The first prefix of a table that starts the bytes. -/
def findKind (table : List Prefix) (body : Bytes) : Except Base58Error Prefix :=
  match table.find? (fun kind => kind.bytes.isPrefixOf body) with
  | some kind => .ok kind
  | none => .error .unknownPrefix

/-- What a text carries and its payload, for the prefixes of a table. -/
def decodeFrom (table : List Prefix) (text : String) : Except Base58Error (Prefix × Bytes) := do
  let bytes ← (Base58.decode text).mapError .invalidCharacter
  let body ← dropChecksum bytes
  let kind ← findKind table body
  let payload ← Base58.checkLength kind kind.payloadLength (body.drop kind.bytes.length)
  return (kind, payload)

/-- What a text carries, and its payload. -/
def decode (text : String) : Except Base58Error (Prefix × Bytes) :=
  decodeFrom Prefix.all text

/-- What a text carries, which has to be one of the `expected` kinds, and its payload. -/
def decodeAs (expected : List Prefix) (text : String) : Except Base58Error (Prefix × Bytes) := do
  let (kind, payload) ← decode text
  if kind ∈ expected then return (kind, payload) else throw (.unexpectedPrefix kind)

/-- The payload of `size` bytes of a text of the given kind. -/
def decodeSized (kind : Prefix) (size : Nat) (text : String) :
    Except Base58Error (FixedBytes size) := do
  let (_, payload) ← decodeAs [kind] text
  match FixedBytes.ofList? size payload with
  | some block => return block
  | none => throw (.payloadLength kind size payload.length)

end CheckedText

namespace Prefix

/-- The text of a payload whose bytes are all `byte`. -/
def uniformText (kind : Prefix) (byte : UInt8) : String :=
  Base58.textOf kind (List.replicate kind.payloadLength byte)

/-- The characters that two texts start with in common. -/
def commonStart : List Char → List Char → List Char
  | left :: lefts, right :: rights => if left = right then left :: commonStart lefts rights else []
  | _, _ => []

/-- The marker that texts of the kind start with: what the texts of the least and of the greatest
payload have in common. -/
def marker (kind : Prefix) : String :=
  String.ofList (commonStart (kind.uniformText 0x00).toList (kind.uniformText 0xff).toList)

/-- How many characters the texts of the kind have. -/
def textLength (kind : Prefix) : Nat := (kind.uniformText 0x00).length

/-- How messages show a prefix: the marker and the length of the texts, as in `tz1(36)`. -/
def display (kind : Prefix) : String := s!"{kind.marker}({kind.textLength})"

end Prefix

/-- The wording of an error in a checked text. -/
def Base58Error.message : Base58Error → String
  | .invalidCharacter byte => s!"invalid base58: invalid base58 character 0x{Hex.number byte.toNat}"
  | .tooShort length => s!"not valid base58check (only {length} bytes)"
  | .checksumMismatch => "b58check checksum failed"
  | .unknownPrefix => "unknown base58check prefix"
  | .payloadLength kind expected actual =>
      s!"unexpected length for prefix {kind.display} ({actual} != {expected})"
  | .unexpectedPrefix kind => s!"unexpected base58check prefix {kind.display}"

end OperationForge
