import OperationForge.Account.Origin
import OperationForge.Proofs.Canonical
import OperationForge.Proofs.Refusals

/-!
# Addresses in bytes

An address takes up 22 bytes on the wire, and the account of a key may also be given by
the 21 bytes of the key hash alone.  The length decides which of the two is read, and
either reader stops at that length whatever the bytes are.  So nothing is ever missing or
left over behind an address: bytes of another length are refused for their length, and all
others for the first of them that selects nothing.
-/

namespace OperationForge

namespace Format

variable {α β : Type} {input rest : Bytes}

theorem decode_of_run_error {format : Format α} {error : WireError}
    (answer : format.read.run input = ⟨.error error, rest⟩) :
    format.decode input = .error error := by
  rw [decode, Reader.exactly, answer]

end Format

namespace KeyHash

theorem length_tagged_hash (owner : KeyHash) :
    (owner.curve.tag :: owner.hash.toList).length = 21 := by simp

/-- The bytes of a key hash. -/
def bytes (owner : KeyHash) : FixedBytes 21 :=
  ⟨owner.curve.tag :: owner.hash.toList, length_tagged_hash owner⟩

theorem encode_eq (owner : KeyHash) : format.encode owner = .ok owner.bytes.toList := rfl

theorem canonical : format.Canonical :=
  format_follows.canonical numbers_layout

/-- A byte that is the tag of no curve is refused. -/
theorem run_read_of_ofTag? {tag : UInt8} (unselected : Curve.ofTag? tag = none) (rest : Bytes) :
    format.read.run (tag :: rest) = ⟨.error (.invalidVariant .keyHash tag), rest⟩ :=
  Reader.run_bind_of_error (Reader.run_choose_of_none unselected rest) _

/-- 21 bytes are a key hash, unless the first one is the tag of no curve. -/
theorem exists_bytes_eq {tag : UInt8} {hash : Bytes} (length : hash.length = 20) :
    Curve.ofTag? tag = none ∨ ∃ owner : KeyHash, owner.bytes.toList = tag :: hash := by
  cases selected : Curve.ofTag? tag with
  | none => exact .inl rfl
  | some curve =>
      have same := Curve.tag_of_ofTag? selected
      exact .inr ⟨⟨curve, hash, length⟩, by rw [bytes, same]⟩

end KeyHash

namespace Address

/-- The bytes of an address. -/
def bytes : Address → FixedBytes 22
  | implicit owner => ⟨0x00 :: owner.bytes.toList, by simp⟩
  | originated hash => ⟨0x01 :: (hash.toList ++ [0x00]), by simp⟩

theorem encode_eq (address : Address) : format.encode address = .ok address.bytes.toList := by
  cases address <;> rfl

theorem canonical : format.Canonical :=
  format_follows.canonical numbers_layout

theorem keyHashBytes_eq_error_iff (address : Address) (error : OperationError) :
    keyHashBytes address = .error error ↔
      address.kind = .originated ∧ error = .notImplicit address := by
  cases address with
  | implicit owner =>
      constructor
      · intro impossible
        cases impossible
      · intro impossible
        cases impossible.1
  | originated hash =>
      constructor
      · intro answer
        cases answer
        exact ⟨rfl, rfl⟩
      · intro answer
        cases answer.2
        rfl

/-! ## Bytes that are read -/

variable {input : Bytes} {address : Address} {error : OperationError}

theorem ofBytes_of_length_22 (length : input.length = 22) :
    ofBytes input = (format.decode input).mapError .wire :=
  if_pos length

theorem ofBytes_of_length_21 (length : input.length = 21) :
    ofBytes input = ((KeyHash.format.decode input).mapError .wire).map implicit := by
  have other : input.length ≠ 22 := by
    rw [length]
    decide
  rw [ofBytes, if_neg other, if_pos length]

/-- All that is written can be read, at its full length and without the kind of account. -/
theorem ofBytes_bytes (address : Address) : ofBytes address.bytes.toList = .ok address := by
  have decoded := (canonical _ _).mpr (encode_eq address)
  rw [ofBytes_of_length_22 (by simp), decoded]
  rfl

theorem ofBytes_keyHash (owner : KeyHash) : ofBytes owner.bytes.toList = .ok (implicit owner) := by
  have decoded := (KeyHash.canonical _ _).mpr owner.encode_eq
  rw [ofBytes_of_length_21 (by simp), decoded]
  rfl

/-! ## Bytes that are refused -/

/-- On the wire an address has its full length. -/
theorem exists_decode_error (other : input.length ≠ 22) :
    ∃ error, format.decode input = .error error := by
  cases decoded : format.decode input with
  | error error => exact ⟨error, rfl⟩
  | ok address =>
      have encoded := (canonical _ _).mp decoded
      rw [encode_eq] at encoded
      cases encoded
      exact absurd address.bytes.length_toList other

/-- Why bytes are no address: for their length, or for a byte that selects nothing where
it stands. -/
inductive Refuses : Bytes → OperationError → Prop where
  | length {input : Bytes} :
      input.length ≠ 22 → input.length ≠ 21 → Refuses input (.addressLength input.length)
  | kind {tag : UInt8} {behind : Bytes} :
      behind.length = 21 → kindOfTag? tag = none →
      Refuses (tag :: behind) (.wire (.invalidVariant .address tag))
  | curve {tag : UInt8} {hash : Bytes} :
      hash.length = 20 → Curve.ofTag? tag = none →
      Refuses (0x00 :: tag :: hash) (.wire (.invalidVariant .keyHash tag))
  | padding {hash : FixedBytes 20} {byte : UInt8} :
      byte ≠ 0x00 →
      Refuses (0x01 :: (hash.toList ++ [byte])) (.wire (.invalidVariant .addressPadding byte))
  | keyHash {tag : UInt8} {hash : Bytes} :
      hash.length = 20 → Curve.ofTag? tag = none →
      Refuses (tag :: hash) (.wire (.invalidVariant .keyHash tag))

/-- The byte for the kind of account is taken, and what names the account is read behind it. -/
theorem run_chooseKind (kind : AccountKind) (behind : Bytes) :
    (Reader.choose .address kindOfTag?).run (kind.tag :: behind) = ⟨.ok kind, behind⟩ :=
  Reader.run_choose_of_some (kindOfTag?_tag kind) behind

theorem run_read_of_kindOfTag? {tag : UInt8} (unselected : kindOfTag? tag = none)
    (behind : Bytes) :
    format.read.run (tag :: behind) = ⟨.error (.invalidVariant .address tag), behind⟩ :=
  Reader.run_bind_of_error (Reader.run_choose_of_none unselected behind) _

theorem run_read_of_ofTag? {tag : UInt8} (unselected : Curve.ofTag? tag = none) (hash : Bytes) :
    format.read.run (0x00 :: tag :: hash) = ⟨.error (.invalidVariant .keyHash tag), hash⟩ := by
  have owner := KeyHash.run_read_of_ofTag? unselected hash
  exact (Reader.run_bind_of_ok (run_chooseKind .implicit _) _).trans
    (Reader.run_bind_of_error owner _)

theorem run_read_of_padding (hash : FixedBytes 20) {byte : UInt8} (other : byte ≠ 0x00) :
    format.read.run (0x01 :: (hash.toList ++ [byte])) =
      ⟨.error (.invalidVariant .addressPadding byte), []⟩ := by
  have padding : readPadding.run [byte] = ⟨.error (.invalidVariant .addressPadding byte), []⟩ :=
    Reader.run_choose_of_none (if_neg other) []
  have behind := Reader.run_bind_of_error padding fun _ => pure (originated hash)
  refine (Reader.run_bind_of_ok (run_chooseKind .originated _) _).trans ?_
  exact (Reader.run_bind_of_ok (Reader.run_take_append hash [byte]) _).trans behind

theorem Refuses.ofBytes_eq (refuses : Refuses input error) : ofBytes input = .error error := by
  cases refuses with
  | length notWhole notKeyHash => rw [ofBytes, if_neg notWhole, if_neg notKeyHash]
  | @kind tag behind length unselected =>
      have answer := run_read_of_kindOfTag? unselected behind
      rw [ofBytes_of_length_22 (by simp [length]), Format.decode_of_run_error answer]
      rfl
  | @curve tag hash length unselected =>
      have answer := run_read_of_ofTag? unselected hash
      rw [ofBytes_of_length_22 (by simp [length]), Format.decode_of_run_error answer]
      rfl
  | @padding hash byte other =>
      have answer := run_read_of_padding hash other
      rw [ofBytes_of_length_22 (by simp), Format.decode_of_run_error answer]
      rfl
  | @keyHash tag hash length unselected =>
      have answer := KeyHash.run_read_of_ofTag? unselected hash
      rw [ofBytes_of_length_21 (by simp [length]), Format.decode_of_run_error answer]
      rfl

/-! ## All bytes -/

/-- 22 bytes are an address, or one of them cannot stand where it stands. -/
theorem exists_of_length_22 (length : input.length = 22) :
    (∃ address : Address, input = address.bytes.toList) ∨ ∃ error, Refuses input error := by
  cases input with
  | nil => cases length
  | cons tag behind =>
      have behindLength : behind.length = 21 := Nat.succ.inj length
      cases selected : kindOfTag? tag with
      | none => exact .inr ⟨_, .kind behindLength selected⟩
      | some kind =>
          obtain rfl := tag_of_kindOfTag? selected
          cases kind with
          | implicit =>
              cases behind with
              | nil => cases behindLength
              | cons curveTag hash =>
                  have hashLength : hash.length = 20 := Nat.succ.inj behindLength
                  cases KeyHash.exists_bytes_eq hashLength with
                  | inl unselected => exact .inr ⟨_, .curve hashLength unselected⟩
                  | inr found =>
                      obtain ⟨owner, same⟩ := found
                      exact .inl ⟨implicit owner, by rw [← same]; rfl⟩
          | originated =>
              cases List.eq_nil_or_concat behind with
              | inl empty =>
                  rw [empty] at behindLength
                  cases behindLength
              | inr split =>
                  simp only [List.concat_eq_append] at split
                  obtain ⟨hash, byte, rfl⟩ := split
                  have hashLength : hash.length = 20 := by simpa using behindLength
                  by_cases zero : byte = 0x00
                  · exact .inl ⟨originated ⟨hash, hashLength⟩, by rw [zero]; rfl⟩
                  · exact .inr ⟨_, @Refuses.padding ⟨hash, hashLength⟩ byte zero⟩

/-- 21 bytes are a key hash, or the first of them is the tag of no curve. -/
theorem exists_of_length_21 (length : input.length = 21) :
    (∃ owner : KeyHash, input = owner.bytes.toList) ∨ ∃ error, Refuses input error := by
  cases input with
  | nil => cases length
  | cons tag hash =>
      have hashLength : hash.length = 20 := Nat.succ.inj length
      cases KeyHash.exists_bytes_eq hashLength with
      | inl unselected => exact .inr ⟨_, .keyHash hashLength unselected⟩
      | inr found =>
          obtain ⟨owner, same⟩ := found
          exact .inl ⟨owner, same.symm⟩

/-- Any bytes are one of the two forms of an address, or refused. -/
theorem exists_form_or_refuses (input : Bytes) :
    (∃ address : Address, input = address.bytes.toList) ∨
      (∃ owner : KeyHash, input = owner.bytes.toList) ∨ ∃ error, Refuses input error := by
  by_cases whole : input.length = 22
  · cases exists_of_length_22 whole with
    | inl address => exact .inl address
    | inr refused => exact .inr (.inr refused)
  · by_cases keyHash : input.length = 21
    · exact .inr (exists_of_length_21 keyHash)
    · exact .inr (.inr ⟨_, .length whole keyHash⟩)

theorem ofBytes_eq_ok_iff (input : Bytes) (address : Address) :
    ofBytes input = .ok address ↔
      format.encode address = .ok input ∨
        ∃ block, keyHashBytes address = .ok block ∧ input = block.toList := by
  constructor
  · intro answer
    rcases exists_form_or_refuses input with ⟨other, rfl⟩ | ⟨owner, rfl⟩ | ⟨error, refuses⟩
    · rw [ofBytes_bytes] at answer
      cases answer
      exact .inl address.encode_eq
    · rw [ofBytes_keyHash] at answer
      cases answer
      exact .inr ⟨owner.bytes, rfl, rfl⟩
    · rw [refuses.ofBytes_eq] at answer
      cases answer
  · intro form
    cases form with
    | inl encoded =>
        rw [encode_eq] at encoded
        cases encoded
        exact ofBytes_bytes address
    | inr short =>
        obtain ⟨block, answer, rfl⟩ := short
        cases address with
        | implicit owner =>
            cases answer
            exact ofBytes_keyHash owner
        | originated hash => cases answer

theorem ofBytes_eq_error_iff (input : Bytes) (error : OperationError) :
    ofBytes input = .error error ↔ Refuses input error := by
  constructor
  · intro failed
    rcases exists_form_or_refuses input with ⟨address, rfl⟩ | ⟨owner, rfl⟩ | ⟨other, refuses⟩
    · rw [ofBytes_bytes] at failed
      cases failed
    · rw [ofBytes_keyHash] at failed
      cases failed
    · rw [refuses.ofBytes_eq] at failed
      cases failed
      exact refuses
  · intro refuses
    exact refuses.ofBytes_eq

/-- The choices that decide whether bytes of the right length are an address. -/
def choices : List Choice := [.address, .addressPadding, .keyHash]

theorem Refuses.error_eq (refuses : Refuses input error) :
    (input.length ≠ 22 ∧ input.length ≠ 21 ∧ error = .addressLength input.length) ∨
      ((input.length = 22 ∨ input.length = 21) ∧ ∃ choice ∈ choices, ∃ byte,
        choice.selects byte = false ∧ error = .wire (.invalidVariant choice byte)) := by
  cases refuses with
  | length notWhole notKeyHash => exact .inl ⟨notWhole, notKeyHash, rfl⟩
  | @kind tag behind length unselected =>
      have refused : Choice.address.selects tag = false := by simp [Choice.selects, unselected]
      exact .inr ⟨by simp [length], .address, by decide, tag, refused, rfl⟩
  | @curve tag hash length unselected | @keyHash tag hash length unselected =>
      have refused : Choice.keyHash.selects tag = false := by simp [Choice.selects, unselected]
      exact .inr ⟨by simp [length], .keyHash, by decide, tag, refused, rfl⟩
  | @padding hash byte other =>
      have refused : Choice.addressPadding.selects byte = false := by simpa [Choice.selects]
      exact .inr ⟨by simp, .addressPadding, by decide, byte, refused, rfl⟩

/-- Bytes are read as an address exactly if they are what it is encoded as, or the key hash
of the account of a key without the byte in front.  All addresses are 22 bytes, and only
those of keys have the shorter form.  Other bytes are refused for their length, and if that
is right for a byte that selects no kind of account, no curve or no padding: nothing is
ever missing or left over. -/
theorem ofBytes_iff_form :
    (∀ input address, ofBytes input = .ok address ↔
      format.encode address = .ok input ∨
        ∃ block, keyHashBytes address = .ok block ∧ input = block.toList) ∧
    (∀ address, ∃ block : FixedBytes 22, format.encode address = .ok block.toList) ∧
    (∀ owner, ∃ block, keyHashBytes (implicit owner) = .ok block ∧
      KeyHash.format.encode owner = .ok block.toList ∧
      format.encode (implicit owner) = .ok (0x00 :: block.toList)) ∧
    (∀ address error, keyHashBytes address = .error error ↔
      address.kind = .originated ∧ error = .notImplicit address) ∧
    (∀ input error, ofBytes input = .error error ↔ Refuses input error) ∧
    (∀ input, ofBytes input ≠ .error (.wire .outOfBounds) ∧
      ofBytes input ≠ .error (.wire .extraInput)) ∧
    ∀ input error, ofBytes input = .error error →
      (input.length ≠ 22 ∧ input.length ≠ 21 ∧ error = .addressLength input.length) ∨
        ((input.length = 22 ∨ input.length = 21) ∧ ∃ choice ∈ choices, ∃ byte,
          choice.selects byte = false ∧ error = .wire (.invalidVariant choice byte)) := by
  refine ⟨ofBytes_eq_ok_iff, ?whole, ?keyHash, keyHashBytes_eq_error_iff, ofBytes_eq_error_iff,
    ?never, ?refused⟩
  case whole =>
    intro address
    exact ⟨address.bytes, address.encode_eq⟩
  case keyHash =>
    intro owner
    exact ⟨owner.bytes, rfl, owner.encode_eq, encode_eq (implicit owner)⟩
  case never =>
    intro input
    constructor <;>
      · intro failed
        cases (ofBytes_eq_error_iff input _).mp failed
  case refused =>
    intro input error failed
    exact ((ofBytes_eq_error_iff input error).mp failed).error_eq

/-- The account of a P-256 key in 22 and in 21 bytes, and bytes of these lengths behind tags
that there are not. -/
theorem foreignOwner_iff_form :
    let owner : KeyHash := ⟨.p256, ⟨List.replicate 20 0x11, rfl⟩⟩
    ofBytes (0x00 :: 0x02 :: List.replicate 20 0x11) = .ok (implicit owner) ∧
      ofBytes (0x02 :: List.replicate 20 0x11) = .ok (implicit owner) ∧
      ofBytes (List.replicate 22 0x02) = .error (.wire (.invalidVariant .address 0x02)) ∧
      ofBytes (List.replicate 21 0x07) = .error (.wire (.invalidVariant .keyHash 0x07)) ∧
      (∃ choice ∈ choices, ∃ byte, choice.selects byte = false ∧
        OperationError.wire (.invalidVariant .keyHash 0x07) =
          .wire (.invalidVariant choice byte)) ∧
      ofBytes (List.replicate 20 0x00) = .error (.addressLength 20) ∧
      keyHashBytes (originated owner.hash) = .error (.notImplicit (originated owner.hash)) := by
  intro owner
  obtain ⟨accepted, -, -, keyHash, refused, -, refusal⟩ := ofBytes_iff_form
  have curve : ofBytes (List.replicate 21 0x07) = .error (.wire (.invalidVariant .keyHash 0x07)) :=
    (refused _ _).mpr (.keyHash rfl rfl)
  refine ⟨(accepted _ _).mpr (.inl rfl), (accepted _ _).mpr (.inr ⟨owner.bytes, rfl, rfl⟩),
    (refused _ _).mpr (.kind rfl rfl), curve, ?_,
    (refused _ _).mpr (.length (by decide) (by decide)), (keyHash _ _).mpr ⟨rfl, rfl⟩⟩
  cases refusal _ _ curve with
  | inl wrongLength => cases wrongLength.2.1 rfl
  | inr selects => exact selects.2

end Address

end OperationForge
