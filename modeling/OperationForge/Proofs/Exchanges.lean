import OperationForge.Interchange.Exchange
import OperationForge.Proofs.Addresses
import OperationForge.Proofs.Sequences
import OperationForge.Proofs.Texts

/-!
# Values in data formats

What a value is written as in a data format is read back as that value, in the formats
that people read and in binary ones.  The types agree in this although they go about it in
different ways: a signature stays a text in binary formats, for the sake of its label, and
the others are the bytes that they are on the wire.  Those bytes can come in one piece or
one by one, and are read as nowhere else but on the wire, so that an address has to be there
at its full length.
-/

namespace OperationForge.Interchange

/-! ## Bytes one by one -/

namespace Value

/-- A byte as an item of a sequence. -/
def ofByte (byte : UInt8) : Value := integer byte.toNat

@[simp] theorem toByte_ofByte (byte : UInt8) : (ofByte byte).toByte = .ok byte := by
  have below := byte.toNat_lt
  have inside : 0 ≤ (byte.toNat : Int) ∧ (byte.toNat : Int) < 256 := by omega
  rw [ofByte, toByte, if_pos inside, Int.toNat_natCast, UInt8.ofNat_toNat]

theorem mapM_toByte_map_ofByte (bytes : Bytes) :
    (bytes.map ofByte).mapM toByte = .ok bytes := by
  induction bytes with
  | nil => rfl
  | cons byte rest ih =>
      rw [List.map_cons, List.mapM_cons, ih, toByte_ofByte]
      rfl

end Value

namespace Exchange

variable {α : Type} {exchange : Exchange α} {format : Format α} {acceptsText : Bool}

theorem readBinary_bytes (wire : exchange.binary = .wire format acceptsText) (bytes : Bytes) :
    exchange.readBinary (.bytes bytes) = (format.decode bytes).mapError .wire := by
  rw [readBinary, wire]
  rfl

/-- It makes no difference whether bytes come one by one. -/
theorem readBinary_sequence (wire : exchange.binary = .wire format acceptsText) (bytes : Bytes) :
    exchange.readBinary (.sequence (bytes.map Value.ofByte)) =
      exchange.readBinary (.bytes bytes) := by
  rw [readBinary_bytes wire, readBinary, wire]
  dsimp only
  rw [Value.mapM_toByte_map_ofByte]
  rfl

theorem writeBinary_of_encode (wire : exchange.binary = .wire format acceptsText) {value : α}
    {bytes : Bytes} (encoded : format.encode value = .ok bytes) :
    exchange.writeBinary value = .ok (.bytes bytes) := by
  rw [writeBinary, wire]
  dsimp only
  rw [encoded]
  rfl

end Exchange

/-! ## The types -/

/-- A type whose values are exchanged in data formats. -/
inductive ExchangeType where
  | blockId
  | operationId
  | address
  | publicKey
  | signature
  deriving DecidableEq, Repr

namespace ExchangeType

/-- The type among those whose values have a text. -/
def textType : ExchangeType → TextType
  | blockId => .blockId
  | operationId => .operationId
  | address => .address
  | publicKey => .publicKey
  | signature => .signature

/-- The values of a type. -/
abbrev Value (type : ExchangeType) : Type := type.textType.Value

/-- How the values of a type are exchanged. -/
def exchange : (type : ExchangeType) → Exchange type.Value
  | blockId => identifier .blockHash
  | operationId => identifier .operationHash
  | address => Interchange.address
  | publicKey => Interchange.publicKey
  | signature => Interchange.signature

/-- The format on the wire of the types that are bytes in binary formats. -/
def format? : (type : ExchangeType) → Option (Format type.Value)
  | blockId => some (Identifier.format .blockHash)
  | operationId => some (Identifier.format .operationHash)
  | address => some Address.format
  | publicKey => some PublicKey.format
  | signature => none

theorem format?_eq_none_iff (type : ExchangeType) : type.format? = none ↔ type = .signature := by
  cases type <;> simp [format?]

theorem exists_binary_eq {type : ExchangeType} {format : Format type.Value}
    (found : type.format? = some format) :
    ∃ acceptsText, type.exchange.binary = .wire format acceptsText := by
  cases type <;> cases found <;> exact ⟨_, rfl⟩

theorem roundTrips {type : ExchangeType} {format : Format type.Value}
    (found : type.format? = some format) (value : type.Value) : format.RoundTrips value := by
  cases type with
  | blockId | operationId =>
      cases found
      exact ((Identifier.format_follows _).roundTrips_iff value).mpr trivial
  | address =>
      cases found
      exact (Address.format_follows.roundTrips_iff value).mpr trivial
  | publicKey =>
      cases found
      exact (PublicKey.format_follows.roundTrips_iff value).mpr trivial
  | signature => cases found

/-- Texts are read as elsewhere, but for how errors are reported. -/
theorem exists_ofText_eq (type : ExchangeType) :
    ∃ report, ∀ text, type.exchange.ofText text = (type.textType.ofText text).mapError report := by
  cases type <;> exact ⟨_, fun _ => rfl⟩

theorem text_eq (type : ExchangeType) (value : type.Value) :
    type.exchange.text value = type.textType.text value := by
  cases type <;> rfl

theorem display_eq (type : ExchangeType) (value : type.Value) :
    type.textType.display value = .ok (type.exchange.text value) := by
  rw [text_eq, TextType.text_eq]
  exact type.textType.faithful.encode_content value

theorem ofText_text (type : ExchangeType) (value : type.Value) :
    type.exchange.ofText (type.exchange.text value) = .ok value := by
  obtain ⟨report, same⟩ := type.exists_ofText_eq
  rw [same, text_eq, Except.mapError_eq_ok_iff]
  exact type.textType.ofText_text value

theorem exists_writeBinary (type : ExchangeType) (value : type.Value) :
    ∃ written, type.exchange.writeBinary value = .ok written ∧
      type.exchange.readBinary written = .ok value := by
  cases found : type.format? with
  | none =>
      obtain rfl := type.format?_eq_none_iff.mp found
      exact ⟨_, rfl, ofText_text signature value⟩
  | some format =>
      obtain ⟨acceptsText, wire⟩ := exists_binary_eq found
      obtain ⟨bytes, encoded, decoded⟩ := roundTrips found value
      refine ⟨.bytes bytes, Exchange.writeBinary_of_encode wire encoded, ?_⟩
      rw [Exchange.readBinary_bytes wire, decoded]
      rfl

theorem readBinary_of_format? {type : ExchangeType} {format : Format type.Value}
    (found : type.format? = some format) (bytes : Bytes) :
    type.exchange.readBinary (.bytes bytes) = (format.decode bytes).mapError .wire ∧
      type.exchange.readBinary (.sequence (bytes.map Interchange.Value.ofByte)) =
        (format.decode bytes).mapError .wire := by
  obtain ⟨acceptsText, wire⟩ := exists_binary_eq found
  have whole := Exchange.readBinary_bytes wire bytes
  exact ⟨whole, (Exchange.readBinary_sequence wire bytes).trans whole⟩

/-- The form of an address without the kind of account is for `Address.ofBytes` alone. -/
theorem exists_readBinary_keyHash {owner : Address} {block : FixedBytes 21}
    (short : owner.keyHashBytes = .ok block) :
    Address.ofBytes block.toList = .ok owner ∧ ∃ error,
      address.exchange.readBinary (.bytes block.toList) = .error (.wire error) ∧
        address.exchange.readBinary (.sequence (block.toList.map Interchange.Value.ofByte)) =
          .error (.wire error) := by
  have accepted := (Address.ofBytes_eq_ok_iff _ owner).mpr (.inr ⟨block, short, rfl⟩)
  have other : block.toList.length ≠ 22 := by simp
  obtain ⟨error, refused⟩ := Address.exists_decode_error other
  have failed : (Address.format.decode block.toList).mapError Refusal.wire =
      .error (.wire error) := by
    rw [refused]
    rfl
  obtain ⟨whole, pieces⟩ := @readBinary_of_format? .address _ rfl block.toList
  exact ⟨accepted, error, whole.trans failed, pieces.trans failed⟩

/-- In either kind of format a value is read back from what it is written as, and with it
the label of a signature.  All types but signatures are bytes in binary formats, and there
every list of bytes is read as the wire format reads it, whether it comes in one piece or
byte by byte.  So the short form of the address of a key, which is read elsewhere, is
refused. -/
theorem read_inverts_write :
    (∀ (type : ExchangeType) (value : type.Value), ∃ text,
      type.textType.display value = .ok text ∧
      type.exchange.writeText value = .string text ∧
      type.exchange.readText (.string text) = .ok value) ∧
    (∀ (type : ExchangeType) (value : type.Value), ∃ written,
      type.exchange.writeBinary value = .ok written ∧
      type.exchange.readBinary written = .ok value) ∧
    (∀ type : ExchangeType, type.format? = none ↔ type = .signature) ∧
    (∀ (type : ExchangeType) format, type.format? = some format → ∀ bytes,
      type.exchange.readBinary (.bytes bytes) = (format.decode bytes).mapError .wire ∧
      type.exchange.readBinary (.sequence (bytes.map Interchange.Value.ofByte)) =
        (format.decode bytes).mapError .wire) ∧
    ∀ (owner : Address) block, owner.keyHashBytes = .ok block →
      Address.ofBytes block.toList = .ok owner ∧ ∃ error,
        address.exchange.readBinary (.bytes block.toList) = .error (.wire error) ∧
        address.exchange.readBinary (.sequence (block.toList.map Interchange.Value.ofByte)) =
          .error (.wire error) := by
  refine ⟨?_, exists_writeBinary, format?_eq_none_iff, ?_, ?_⟩
  · intro type value
    exact ⟨_, type.display_eq value, rfl, type.ofText_text value⟩
  · intro type format found bytes
    exact readBinary_of_format? found bytes
  · intro owner block short
    exact exists_readBinary_keyHash short

/-- A generic signature, the address of a key and its short form. -/
theorem ownerAddress_read_inverts_write :
    let unlabelled : Signature := ⟨.generic, ⟨List.replicate 64 0x5a, rfl⟩⟩
    let owner : Address := .implicit ⟨.ed25519, ⟨List.replicate 20 0x0a, rfl⟩⟩
    let short : FixedBytes 21 := ⟨0x00 :: List.replicate 20 0x0a, rfl⟩
    (∃ written, signature.exchange.writeBinary unlabelled = .ok written ∧
      signature.exchange.readBinary written = .ok unlabelled) ∧
    address.exchange.readBinary
        (.sequence ((0x00 :: short.toList).map Interchange.Value.ofByte)) = .ok owner ∧
    owner.keyHashBytes = .ok short ∧ Address.ofBytes short.toList = .ok owner ∧
    ∃ error, address.exchange.readBinary (.bytes short.toList) = .error (.wire error) := by
  intro unlabelled owner short
  obtain ⟨-, binary, -, wire, refused⟩ := read_inverts_write
  have whole : address.exchange.readBinary
      (.sequence ((0x00 :: short.toList).map Interchange.Value.ofByte)) = .ok owner :=
    (wire .address _ rfl (0x00 :: short.toList)).2.trans rfl
  obtain ⟨accepted, error, bytes, -⟩ := refused owner short rfl
  exact ⟨binary .signature unlabelled, whole, rfl, accepted, error, bytes⟩

end ExchangeType

end OperationForge.Interchange
