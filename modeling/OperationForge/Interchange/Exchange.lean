import OperationForge.Account.Origin
import OperationForge.Interchange.Value
import OperationForge.Key.Signature

/-!
# Exchanging keys, signatures, addresses and identifiers

In formats that people read, a value is its checked text.  In binary formats it is its bytes on the
wire, and may be read from a sequence of bytes as well.  A signature is its text in both, because
its bytes do not show its label.
-/

namespace OperationForge.Interchange

/-- How the values of a type are written in binary formats. -/
inductive BinaryForm (α : Type) where
  /-- As their text. -/
  | text
  /-- As their bytes on the wire.  Their text may be accepted too. -/
  | wire (format : Format α) (acceptsText : Bool)

/-- How the values of a type are exchanged. -/
structure Exchange (α : Type) where
  text : α → String
  ofText : String → Except Refusal α
  binary : BinaryForm α
  /-- What messages about formats that people read say is expected. -/
  expectedText : String
  /-- What messages about binary formats say is expected. -/
  expectedBinary : String

namespace Exchange

variable {α : Type} (exchange : Exchange α)

/-- The value of an offered text. -/
def readText : Value → Except Refusal α
  | .string text => exchange.ofText text
  | other => .error (.invalidType other exchange.expectedText)

/-- The value whose bytes on the wire are offered. -/
def readWire (format : Format α) (bytes : Bytes) : Except Refusal α :=
  (format.decode bytes).mapError .wire

/-- The value that a binary format offers. -/
def readBinary (offered : Value) : Except Refusal α :=
  match exchange.binary with
  | .text => exchange.readText offered
  | .wire format acceptsText =>
      match offered with
      | .string text =>
          if acceptsText then exchange.ofText text
          else .error (.invalidType offered exchange.expectedBinary)
      | .bytes bytes => readWire format bytes
      | .sequence items => do
          let bytes ← items.mapM Value.toByte
          readWire format bytes
      | other => .error (.invalidType other exchange.expectedBinary)

/-- What is written to formats that people read. -/
def writeText (value : α) : Value :=
  .string (exchange.text value)

/-- What is written to binary formats. -/
def writeBinary (value : α) : Except WireError Value :=
  match exchange.binary with
  | .text => .ok (.string (exchange.text value))
  | .wire format _ => (format.encode value).map .bytes

end Exchange

/-- Public keys.  Binary formats take no text for them. -/
def publicKey : Exchange PublicKey where
  text := PublicKey.text
  ofText text := (PublicKey.ofText text).mapError .key
  binary := .wire PublicKey.format false
  expectedText := "a base58check public key"
  expectedBinary := "a tagged public key"

/-- Signatures. -/
def signature : Exchange Signature where
  text := Signature.text
  ofText text := (Signature.ofText text).mapError .key
  binary := .text
  expectedText := "a base58check signature"
  expectedBinary := "a base58check signature"

/-- What messages say is expected where a text and bytes will do. -/
def textOrBytes : String := "a base58check string or its binary encoding"

/-- Addresses. -/
def address : Exchange Address where
  text := Address.text
  ofText text := (Address.ofText text).mapError .operation
  binary := .wire Address.format true
  expectedText := textOrBytes
  expectedBinary := textOrBytes

/-- Identifiers of blocks and operations. -/
def identifier (kind : Prefix) : Exchange (Identifier kind) where
  text := Identifier.text
  ofText text := (Identifier.ofText kind text).mapError .operation
  binary := .wire (Identifier.format kind) true
  expectedText := textOrBytes
  expectedBinary := textOrBytes

end OperationForge.Interchange
