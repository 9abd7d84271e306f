import OperationForge.Proofs.CheckedTexts
import OperationForge.TextType

/-!
# Texts of keys, signatures, addresses and identifiers

The types that are shown as checked texts read them in different ways: one looks at the length
of a payload before its prefix, some leave the length to the prefix, some look at it once
more.  They agree all the same: the text of a value is read as that value and nothing
else is, no text is read as values of two types, and a text that carries something of
another type is refused for its prefix, or, where addresses are read, for the length that
only their prefixes have.
-/

namespace OperationForge

/-! ## Reading with prefixes in mind -/

namespace CheckedText

variable {text : String} {kind : Prefix} {payload : Bytes} {error : Base58Error}

/-- The length of a payload is that of its prefix. -/
theorem length_of_decode (read : decode text = .ok (kind, payload)) :
    payload.length = kind.payloadLength :=
  (decode_eq_ok_iff.mp read).1

theorem decodeAs_of_mem {expected : List Prefix} (read : decode text = .ok (kind, payload))
    (member : kind ∈ expected) : decodeAs expected text = .ok (kind, payload) := by
  rw [decodeAs, read]
  exact if_pos member

theorem decodeAs_of_not_mem {expected : List Prefix} (read : decode text = .ok (kind, payload))
    (other : kind ∉ expected) : decodeAs expected text = .error (.unexpectedPrefix kind) := by
  rw [decodeAs, read]
  exact if_neg other

theorem decodeAs_of_error {expected : List Prefix} (failed : decode text = .error error) :
    decodeAs expected text = .error error := by
  rw [decodeAs, failed]
  rfl

end CheckedText

/-- A type whose values stand for the payloads of the right length under some prefixes.  Reading
gives the value that stands for what a text carries, and reports that the text cannot be read or
carries something else. -/
structure FaithfulText {α ε : Type} (kinds : List Prefix) (content : α → Prefix × Bytes)
    (failure : Base58Error → ε) (refusal : Prefix → Nat → Base58Error)
    (ofText : String → Except ε α) : Prop where
  exists_content_iff {kind : Prefix} {payload : Bytes} :
    (∃ value, content value = (kind, payload)) ↔
      kind ∈ kinds ∧ payload.length = kind.payloadLength
  accepts {text : String} {value : α} :
    CheckedText.decode text = .ok (content value) → ofText text = .ok value
  refuses {text : String} {kind : Prefix} {payload : Bytes} :
    CheckedText.decode text = .ok (kind, payload) → kind ∉ kinds →
      ofText text = .error (failure (refusal kind payload.length))
  reports {text : String} {error : Base58Error} :
    CheckedText.decode text = .error error → ofText text = .error (failure error)

namespace FaithfulText

variable {α ε : Type} {kinds : List Prefix} {content : α → Prefix × Bytes}
  {failure : Base58Error → ε} {refusal : Prefix → Nat → Base58Error}
  {ofText : String → Except ε α}

theorem mem_kinds (faithful : FaithfulText kinds content failure refusal ofText) (value : α) :
    (content value).1 ∈ kinds :=
  (faithful.exists_content_iff.mp ⟨value, rfl⟩).1

/-- The text of a value can be written. -/
theorem encode_content (faithful : FaithfulText kinds content failure refusal ofText)
    (value : α) :
    CheckedText.encode (content value).1 (content value).2 =
      .ok (Base58.textOf (content value).1 (content value).2) :=
  CheckedText.encode_eq_ok_iff.mpr ⟨(faithful.exists_content_iff.mp ⟨value, rfl⟩).2, rfl⟩

/-- The text of a value is read as that value. -/
theorem ofText_textOf (faithful : FaithfulText kinds content failure refusal ofText) (value : α) :
    ofText (Base58.textOf (content value).1 (content value).2) = .ok value := by
  have written := faithful.encode_content value
  exact faithful.accepts (CheckedText.decode_eq_ok_iff.mpr (CheckedText.encode_eq_ok_iff.mp written))

/-- Every payload under the right prefix is read. -/
theorem exists_value (faithful : FaithfulText kinds content failure refusal ofText)
    {text : String} {kind : Prefix} {payload : Bytes}
    (read : CheckedText.decode text = .ok (kind, payload)) (member : kind ∈ kinds) :
    ∃ value, content value = (kind, payload) ∧ ofText text = .ok value := by
  rcases faithful.exists_content_iff.mpr ⟨member, CheckedText.length_of_decode read⟩ with
    ⟨value, same⟩
  exact ⟨value, same, faithful.accepts (read.trans (congrArg _ same.symm))⟩

/-- The value of a text stands for what the text carries. -/
theorem ofText_eq_ok_iff (faithful : FaithfulText kinds content failure refusal ofText)
    {text : String} {value : α} :
    ofText text = .ok value ↔ CheckedText.decode text = .ok (content value) := by
  refine ⟨fun answer => ?_, faithful.accepts⟩
  cases read : CheckedText.decode text with
  | error error =>
      rw [faithful.reports read] at answer
      cases answer
  | ok carried =>
      by_cases member : carried.1 ∈ kinds
      · rcases faithful.exists_value read member with ⟨other, same, accepted⟩
        rw [answer] at accepted
        cases accepted
        exact congrArg _ same.symm
      · rw [faithful.refuses read member] at answer
        cases answer

end FaithfulText

/-! ## Identifiers and seeds -/

/-- Values made of a label and of as many bytes as the label says stand for the payloads under the
prefixes of the labels. -/
theorem exists_content_iff_of_labels {ι α : Type} {kinds : List Prefix}
    {content : α → Prefix × Bytes} {label : ι → Prefix} {size : ι → Nat}
    (build : (index : ι) → FixedBytes (size index) → α)
    (mem_kinds_iff : ∀ {kind : Prefix}, kind ∈ kinds ↔ ∃ index, label index = kind)
    (length : ∀ index, (label index).payloadLength = size index)
    (content_build : ∀ index block, content (build index block) = (label index, block.toList))
    (built : ∀ value, ∃ index block, build index block = value)
    {kind : Prefix} {payload : Bytes} :
    (∃ value, content value = (kind, payload)) ↔
      kind ∈ kinds ∧ payload.length = kind.payloadLength := by
  rw [mem_kinds_iff]
  constructor
  · rintro ⟨value, equal⟩
    rcases built value with ⟨index, block, rfl⟩
    rw [content_build] at equal
    cases equal
    exact ⟨⟨index, rfl⟩, block.length_toList.trans (length index).symm⟩
  · rintro ⟨⟨index, rfl⟩, exact⟩
    exact ⟨build index ⟨payload, exact.trans (length index)⟩, content_build _ _⟩

namespace FaithfulText

variable {α ε : Type} {content : α → Prefix × Bytes} {failure : Base58Error → ε}
  {ofText : String → Except ε α}

/-- A type whose values are the blocks of one size, shown under one prefix. -/
theorem of_decodeSized {kind : Prefix} {size : Nat} {build : FixedBytes size → α}
    (length : kind.payloadLength = size)
    (content_build : ∀ block, content (build block) = (kind, block.toList))
    (built : ∀ value, ∃ block, build block = value)
    (steps : ∀ text, ofText text =
      (CheckedText.decodeSized kind size text).mapError failure >>= fun block =>
        .ok (build block)) :
    FaithfulText [kind] content failure (fun kind _ => .unexpectedPrefix kind) ofText where
  exists_content_iff :=
    exists_content_iff_of_labels (fun _ : Unit => build) (by simp [eq_comm]) (fun _ => length)
      (fun _ => content_build) fun value => ⟨(), built value⟩
  accepts := by
    intro text value read
    rcases built value with ⟨block, rfl⟩
    rw [content_build] at read
    rw [steps, CheckedText.decodeSized,
      CheckedText.decodeAs_of_mem read (List.mem_singleton_self kind)]
    dsimp only [bind, Except.bind]
    rw [FixedBytes.ofList?_toList]
    rfl
  refuses := by
    intro text carried payload read other
    rw [steps, CheckedText.decodeSized, CheckedText.decodeAs_of_not_mem read other]
    rfl
  reports := by
    intro text error failed
    rw [steps, CheckedText.decodeSized, CheckedText.decodeAs_of_error failed]
    rfl

end FaithfulText

theorem Identifier.faithful {kind : Prefix} (length : kind.payloadLength = 32) :
    FaithfulText [kind] content OperationError.base58 (fun kind _ => .unexpectedPrefix kind)
      (ofText kind) :=
  .of_decodeSized length (fun _ => rfl) (fun identifier => ⟨identifier.bytes, rfl⟩) fun _ => rfl

theorem Seed.faithful :
    FaithfulText [.ed25519Seed] content KeyError.base58 (fun kind _ => .unexpectedPrefix kind)
      ofText :=
  .of_decodeSized rfl (fun _ => rfl) (fun seed => ⟨seed.bytes, rfl⟩) fun _ => rfl

/-! ## Keys and signatures -/

/-- A type whose values have one of several prefixes, with a step that takes what a text carries to
its value. -/
theorem FaithfulText.of_decodeAs {α ε : Type} {kinds : List Prefix}
    {content : α → Prefix × Bytes} {failure : Base58Error → ε} {ofText : String → Except ε α}
    {rest : Prefix × Bytes → Except ε α}
    (exists_content_iff : ∀ {kind : Prefix} {payload : Bytes},
      (∃ value, content value = (kind, payload)) ↔
        kind ∈ kinds ∧ payload.length = kind.payloadLength)
    (rest_content : ∀ value, rest (content value) = .ok value)
    (steps : ∀ text, ofText text = (CheckedText.decodeAs kinds text).mapError failure >>= rest) :
    FaithfulText kinds content failure (fun kind _ => .unexpectedPrefix kind) ofText where
  exists_content_iff := exists_content_iff
  accepts := by
    intro text value read
    have member := (exists_content_iff.mp ⟨value, rfl⟩).1
    rw [steps, CheckedText.decodeAs_of_mem read member]
    exact rest_content value
  refuses := by
    intro text kind payload read other
    rw [steps, CheckedText.decodeAs_of_not_mem read other]
    rfl
  reports := by
    intro text error failed
    rw [steps, CheckedText.decodeAs_of_error failed]
    rfl

namespace Curve

variable (curve : Curve)

@[simp] theorem ofPublicKeyKind?_publicKeyKind :
    ofPublicKeyKind? curve.publicKeyKind = some curve := by
  cases curve <;> rfl

@[simp] theorem ofSecretKeyKind?_secretKeyKind :
    ofSecretKeyKind? curve.secretKeyKind = some curve := by
  cases curve <;> rfl

theorem payloadLength_publicKeyKind :
    curve.publicKeyKind.payloadLength = curve.publicKeyLength := by
  cases curve <;> rfl

theorem payloadLength_secretKeyKind :
    curve.secretKeyKind.payloadLength = curve.secretKeyLength := by
  cases curve <;> rfl

end Curve

namespace PublicKey

theorem mem_textKinds_iff {kind : Prefix} :
    kind ∈ textKinds ↔ ∃ curve, Curve.publicKeyKind curve = kind := by
  constructor
  · simp only [textKinds, List.mem_cons, List.not_mem_nil, or_false]
    rintro (rfl | rfl | rfl)
    · exact ⟨.ed25519, rfl⟩
    · exact ⟨.secp256k1, rfl⟩
    · exact ⟨.p256, rfl⟩
  · rintro ⟨curve, rfl⟩
    cases curve <;> decide

theorem faithful :
    FaithfulText textKinds content KeyError.base58 (fun kind _ => .unexpectedPrefix kind)
      ofText := by
  refine .of_decodeAs (exists_content_iff_of_labels mk mem_textKinds_iff
    Curve.payloadLength_publicKeyKind (fun _ _ => rfl) fun key => ⟨key.curve, key.bytes, rfl⟩)
    ?_ fun _ => rfl
  intro key
  simp [content, ofBytes]

end PublicKey

namespace SecretKey

theorem mem_textKinds_iff {kind : Prefix} :
    kind ∈ textKinds ↔ ∃ curve, Curve.secretKeyKind curve = kind := by
  constructor
  · simp only [textKinds, List.mem_cons, List.not_mem_nil, or_false]
    rintro (rfl | rfl | rfl)
    · exact ⟨.ed25519, rfl⟩
    · exact ⟨.secp256k1, rfl⟩
    · exact ⟨.p256, rfl⟩
  · rintro ⟨curve, rfl⟩
    cases curve <;> decide

theorem faithful :
    FaithfulText textKinds content KeyError.base58 (fun kind _ => .unexpectedPrefix kind)
      ofText := by
  refine .of_decodeAs (exists_content_iff_of_labels mk mem_textKinds_iff
    Curve.payloadLength_secretKeyKind (fun _ _ => rfl) fun key => ⟨key.curve, key.bytes, rfl⟩)
    ?_ fun _ => rfl
  intro key
  simp [content, ofBytes]

end SecretKey

namespace SignatureKind

variable (kind : SignatureKind)

@[simp] theorem ofTextKind?_textKind : ofTextKind? kind.textKind = some kind := by
  rcases kind with ⟨_ | _ | _⟩ | _ <;> rfl

theorem payloadLength_textKind : kind.textKind.payloadLength = 64 := by
  rcases kind with ⟨_ | _ | _⟩ | _ <;> rfl

end SignatureKind

namespace Signature

theorem mem_textKinds_iff {kind : Prefix} :
    kind ∈ textKinds ↔ ∃ label, SignatureKind.textKind label = kind := by
  constructor
  · simp only [textKinds, List.mem_cons, List.not_mem_nil, or_false]
    rintro (rfl | rfl | rfl | rfl)
    · exact ⟨.onCurve .ed25519, rfl⟩
    · exact ⟨.onCurve .secp256k1, rfl⟩
    · exact ⟨.onCurve .p256, rfl⟩
    · exact ⟨.generic, rfl⟩
  · rintro ⟨⟨_ | _ | _⟩ | _, rfl⟩ <;> decide

theorem faithful :
    FaithfulText textKinds content KeyError.base58 (fun kind _ => .unexpectedPrefix kind)
      ofText := by
  refine .of_decodeAs (exists_content_iff_of_labels mk mem_textKinds_iff
    SignatureKind.payloadLength_textKind (fun _ _ => rfl)
    fun signature => ⟨signature.kind, signature.bytes, rfl⟩) ?_ fun _ => rfl
  intro signature
  simp only [content, SignatureKind.ofTextKind?_textKind, FixedBytes.ofList?_toList]
  rfl

end Signature

/-! ## Addresses -/

namespace Address

/-- Only the prefixes of addresses are followed by 20 bytes. -/
theorem mem_textKinds_iff {kind : Prefix} : kind ∈ textKinds ↔ kind.payloadLength = 20 := by
  cases kind <;> decide

theorem exists_of_mem_textKinds {kind : Prefix} (member : kind ∈ textKinds) :
    kind = .contractHash ∨ ∃ curve, Curve.keyHashKind curve = kind := by
  revert member
  simp only [textKinds, List.mem_cons, List.not_mem_nil, or_false]
  rintro (rfl | rfl | rfl | rfl)
  · exact .inr ⟨.ed25519, rfl⟩
  · exact .inr ⟨.secp256k1, rfl⟩
  · exact .inr ⟨.p256, rfl⟩
  · exact .inl rfl

theorem length_content (address : Address) : address.content.2.length = 20 := by
  cases address <;> simp [content]

theorem content_mem_textKinds (address : Address) : address.content.1 ∈ textKinds := by
  rcases address with ⟨⟨_ | _ | _, _⟩⟩ | _ <;> simp [content, textKinds, Curve.keyHashKind]

theorem faithful :
    FaithfulText textKinds content OperationError.base58
      (fun kind length => .payloadLength kind 20 length) ofText where
  exists_content_iff := by
    intro kind payload
    constructor
    · rintro ⟨address, equal⟩
      have member := address.content_mem_textKinds
      have length := address.length_content
      rw [equal] at member length
      exact ⟨member, length.trans (mem_textKinds_iff.mp member).symm⟩
    · rintro ⟨member, exact⟩
      have length : payload.length = 20 := exact.trans (mem_textKinds_iff.mp member)
      rcases exists_of_mem_textKinds member with rfl | ⟨curve, rfl⟩
      · exact ⟨originated ⟨payload, length⟩, rfl⟩
      · exact ⟨implicit ⟨curve, payload, length⟩, rfl⟩
  accepts := by
    intro text address read
    have length : FixedBytes.ofList? 20 address.content.2 = some ⟨_, address.length_content⟩ :=
      dif_pos address.length_content
    rw [ofText, read]
    dsimp only [bind, Except.bind, Except.mapError]
    rw [length]
    rcases address with ⟨⟨_ | _ | _, hash⟩⟩ | hash <;> rfl
  refuses := by
    intro text kind payload read other
    have long : payload.length ≠ 20 := by
      rw [CheckedText.length_of_decode read]
      exact fun length => other (mem_textKinds_iff.mpr length)
    rw [ofText, read]
    dsimp only [bind, Except.bind, Except.mapError]
    rw [FixedBytes.ofList?, dif_neg long]
    rfl
  reports := by
    intro text error failed
    rw [ofText, failed]
    rfl

/-- An address is never refused for the prefix of its text. -/
theorem ofText_ne_unexpectedPrefix (text : String) (kind : Prefix) :
    ofText text ≠ .error (.base58 (.unexpectedPrefix kind)) := by
  intro refused
  cases read : CheckedText.decode text with
  | error error =>
      rw [faithful.reports read] at refused
      cases refused
      exact CheckedText.decode_ne_unexpectedPrefix text kind read
  | ok carried =>
      by_cases member : carried.1 ∈ textKinds
      · rcases faithful.exists_value read member with ⟨address, -, accepted⟩
        rw [accepted] at refused
        cases refused
      · rw [faithful.refuses read member] at refused
        cases refused

end Address

/-! ## All types -/

namespace TextType

/-- Why a text that can be read is none of the type. -/
def refusal : TextType → Prefix → Nat → Base58Error
  | address => fun kind length => .payloadLength kind 20 length
  | _ => fun kind _ => .unexpectedPrefix kind

theorem faithful (type : TextType) :
    FaithfulText type.kinds type.content type.failure type.refusal type.ofText := by
  cases type with
  | address => exact Address.faithful
  | blockId => exact Identifier.faithful rfl
  | operationId => exact Identifier.faithful rfl
  | publicKey => exact PublicKey.faithful
  | secretKey => exact SecretKey.faithful
  | seed => exact Seed.faithful
  | signature => exact Signature.faithful

theorem text_eq (type : TextType) (value : type.Value) :
    type.text value = Base58.textOf (type.content value).1 (type.content value).2 := by
  cases type with
  | address => cases value <;> rfl
  | _ => rfl

theorem ofText_text (type : TextType) (value : type.Value) :
    type.ofText (type.text value) = .ok value := by
  rw [text_eq]
  exact type.faithful.ofText_textOf value

/-- No prefix belongs to two types. -/
theorem eq_of_mem_kinds (type other : TextType) :
    ∀ kind ∈ type.kinds, kind ∈ other.kinds → type = other := by
  cases type <;> cases other <;> decide

/-- The text of a value is shown, and a text is read as the value that it is shown as.  A text is
read as values of one type at most.  Texts that can be read at all are accepted by a type
exactly if their prefix is one of its own, so no type finds fault with the length of a payload
behind such a prefix; what is refused is refused for the prefix, except by addresses, which
never look at the prefix of a payload that does not have 20 bytes. -/
theorem ofText_inverts_display :
    (∀ (type : TextType) (value : type.Value),
      type.display value = .ok (type.text value) ∧ type.ofText (type.text value) = .ok value) ∧
    (∀ (type : TextType) text value,
      type.ofText text = .ok value → type.text value = text) ∧
    (∀ (type other : TextType) text value otherValue,
      type.ofText text = .ok value → other.ofText text = .ok otherValue → type = other) ∧
    (∀ (type : TextType) text kind payload, CheckedText.decode text = .ok (kind, payload) →
      (kind ∈ type.kinds → ∃ value, type.ofText text = .ok value) ∧
      (kind ∉ type.kinds → type ≠ .address →
        type.ofText text = .error (type.failure (.unexpectedPrefix kind))) ∧
      (kind ∉ Address.textKinds →
        Address.ofText text = .error (.base58 (.payloadLength kind 20 payload.length)))) ∧
    (∀ text kind, Address.ofText text ≠ .error (.base58 (.unexpectedPrefix kind))) := by
  refine ⟨?shown, ?read, ?single, ?answers, Address.ofText_ne_unexpectedPrefix⟩
  case shown =>
    intro type value
    have written := type.faithful.encode_content value
    rw [← text_eq] at written
    refine ⟨written, type.faithful.accepts ?_⟩
    exact CheckedText.decode_eq_ok_iff.mpr (CheckedText.encode_eq_ok_iff.mp written)
  case read =>
    intro type text value answer
    have carried := type.faithful.ofText_eq_ok_iff.mp answer
    exact (text_eq type value).trans (CheckedText.decode_eq_ok_iff.mp carried).2.symm
  case single =>
    intro type other text value otherValue answer otherAnswer
    have carried := type.faithful.ofText_eq_ok_iff.mp answer
    rw [other.faithful.ofText_eq_ok_iff.mp otherAnswer] at carried
    have same := congrArg Prod.fst (Except.ok.inj carried)
    apply eq_of_mem_kinds type other _ (type.faithful.mem_kinds value)
    rw [← same]
    exact other.faithful.mem_kinds otherValue
  case answers =>
    intro type text kind payload read
    refine ⟨?_, ?_, Address.faithful.refuses read⟩
    · intro member
      rcases type.faithful.exists_value read member with ⟨value, -, accepted⟩
      exact ⟨value, accepted⟩
    · intro foreign other
      have refused := type.faithful.refuses read foreign
      cases type with
      | address => exact absurd rfl other
      | _ => exact refused

/-- The text of the address of a key is read as that address and as nothing else, and the text of
the identifier of a chain is refused for its length or for its prefix. -/
theorem ownerText_inverts_display :
    (∃ address : Address, address.text = "tz1KqTpEZ7Yob7QbPE4Hy4Wo8fHG8LhKxZSx" ∧
        Address.ofText address.text = .ok address ∧
        ∀ (other : TextType) value, other.ofText address.text = .ok value → other = .address) ∧
      Address.ofText "NetXdQprcVkpaWU" = .error (.base58 (.payloadLength .chainId 20 4)) ∧
      Seed.ofText "NetXdQprcVkpaWU" = .error (.base58 (.unexpectedPrefix .chainId)) := by
  rcases ofText_inverts_display with ⟨-, read, single, answers, -⟩
  have owner : CheckedText.decode "tz1KqTpEZ7Yob7QbPE4Hy4Wo8fHG8LhKxZSx" =
      .ok (.ed25519PublicKeyHash, [0x02, 0x29, 0x8c, 0x03, 0xed, 0x7d, 0x45, 0x4a, 0x10, 0x1e,
        0xb7, 0x02, 0x2b, 0xc9, 0x5f, 0x7e, 0x5f, 0x41, 0xac, 0x78]) := by decide +kernel
  have chain : CheckedText.decode "NetXdQprcVkpaWU" =
      .ok (.chainId, [0x7a, 0x06, 0xa7, 0x70]) := by decide +kernel
  refine ⟨?_, (answers .address _ _ _ chain).2.2 (by decide),
    (answers .seed _ _ _ chain).2.1 (by decide) (by decide)⟩
  rcases (answers .address _ _ _ owner).1 (by decide) with ⟨address, accepted⟩
  have same : Address.text address = _ := read .address _ _ accepted
  refine ⟨address, same, same ▸ accepted, ?_⟩
  intro other value answer
  rw [same] at answer
  exact single _ _ _ _ _ answer accepted

end TextType

end OperationForge
