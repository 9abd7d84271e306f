import OperationForge.Proofs.RoundTrips

/-!
# Values with one form

Apart from numbers of variable length nothing on the wire can be written in two ways.  A
value of any type without them is decoded from the bytes that it is encoded as and from
no others, so that every flag, tag, length and zero in between has to be right.
-/

namespace OperationForge

/-- A layout without numbers leaves no choice. -/
theorem Layout.spelledBy_iff_eq_shortest {layout : Layout} (plain : layout.numbers = [])
    (bytes : Bytes) : layout.SpelledBy bytes ↔ bytes = layout.shortest := by
  constructor
  · rintro ⟨forms, spelling⟩
    have read := spelling.forms_read
    rw [plain, List.forall₂_nil_right_iff] at read
    have shortest := spelling.shortest_eq_iff.mpr (by simp [read])
    exact shortest.symm
  · rintro rfl
    exact layout.spelledBy_shortest

namespace Format

variable {α : Type} {format : Format α}

/-- A value is decoded from exactly the bytes that it is encoded as. -/
def Canonical (format : Format α) : Prop :=
  ∀ input value, format.decode input = .ok value ↔ format.encode value = .ok input

theorem Follows.canonical {writable : α → Prop} {layout : α → Layout}
    (follows : format.Follows writable layout) (plain : ∀ value, (layout value).numbers = []) :
    format.Canonical := by
  intro input value
  rw [follows.decode_eq_ok_iff, follows.encode_eq_ok_iff,
    Layout.spelledBy_iff_eq_shortest (plain value)]

namespace Canonical

theorem option (canonical : format.Canonical) : format.option.Canonical := by
  intro input value?
  rw [decode_option_eq_ok_iff, encode_option_eq_ok_iff]
  simp only [canonical _ _]

theorem unique (canonical : format.Canonical) {left right : Bytes} {value : α}
    (first : format.decode left = .ok value) (second : format.decode right = .ok value) :
    left = right := by
  rw [canonical] at first second
  exact Except.ok.inj (first.symm.trans second)

/-- The one form of a value is the bytes that it is encoded as. -/
theorem existsUnique_iff (canonical : format.Canonical) (value : α) :
    (∃! input, format.decode input = .ok value) ↔ format.RoundTrips value := by
  constructor
  · rintro ⟨form, decoded, -⟩
    exact ⟨form, (canonical _ _).mp decoded, decoded⟩
  · rintro ⟨form, -, decoded⟩
    refine ⟨form, decoded, ?_⟩
    intro other accepted
    exact canonical.unique accepted decoded

end Canonical

end Format

/-! ## Names and lengths -/

/-- The texts are the well-formed byte strings. -/
theorem Utf8.exists_encode_iff (bytes : Bytes) :
    (∃ text, encode text = bytes) ↔ (ByteArray.mk bytes.toArray).IsValidUTF8 := by
  constructor
  · rintro ⟨text, rfl⟩
    simpa [encode] using text.isValidUTF8
  · intro valid
    have decoded : decode bytes = .ok (String.ofByteArray ⟨bytes.toArray⟩ valid) := dif_pos valid
    exact ⟨_, encode_of_decode decoded⟩

namespace Entrypoint

/-- A name is accepted behind its length, and as what its bytes are in UTF-8. -/
theorem decode_named_iff (length : UInt8) (bytes : Bytes) (entrypoint : Entrypoint) :
    format.decode (0xff :: length :: bytes) = .ok entrypoint ↔
      length.toNat = bytes.length ∧ ∃ name, Utf8.encode name = bytes ∧ entrypoint = named name := by
  rw [format_follows.decode_eq_ok_iff,
    Layout.spelledBy_iff_eq_shortest entrypoint.numbers_layout]
  constructor
  · rintro ⟨short, spelled⟩
    cases entrypoint with
    | named name =>
        have below : (Utf8.encode name).length < 2 ^ 8 := Nat.lt_succ_of_le short
        obtain ⟨rfl, rfl⟩ : length = UInt8.ofNat (Utf8.encode name).length ∧
            bytes = Utf8.encode name := by
          simpa [layout, body, tag, Layout.shortest] using spelled
        rw [UInt8.toNat_ofNat', Nat.mod_eq_of_lt below]
        exact ⟨rfl, name, rfl, rfl⟩
    | default | root | doLambda | setDelegate | removeDelegate =>
        simp [layout, body, Layout.shortest] at spelled
  · rintro ⟨exact, name, rfl, rfl⟩
    constructor
    · rw [Writable, ← exact]
      exact Nat.le_of_lt_succ length.toNat_lt
    · simp [layout, body, tag, Layout.shortest, ← exact]

theorem exists_decode_named_iff (length : UInt8) (bytes : Bytes) :
    (∃ entrypoint, format.decode (0xff :: length :: bytes) = .ok entrypoint) ↔
      length.toNat = bytes.length ∧ (ByteArray.mk bytes.toArray).IsValidUTF8 := by
  rw [← Utf8.exists_encode_iff]
  simp only [decode_named_iff]
  constructor
  · rintro ⟨_, exact, name, spelled, -⟩
    exact ⟨exact, name, spelled⟩
  · rintro ⟨exact, name, spelled⟩
    exact ⟨named name, exact, name, spelled, rfl⟩

end Entrypoint

namespace Blob

/-- Bytes behind a length, which need not be their own. -/
def tagged (length : UInt32) (body : Bytes) : Bytes :=
  BigEndian.encode 4 length.toNat ++ body

@[simp] theorem length_tagged (length : UInt32) (body : Bytes) :
    (tagged length body).length = 4 + body.length := by
  simp [tagged]

variable {bound : Nat}

@[simp] theorem capacity_hardLimit : capacity hardLimit = hardLimit :=
  Nat.min_self hardLimit

@[simp] theorem length_shortest (blob : Blob bound) :
    blob.layout.shortest.length = 4 + blob.bytes.length := by
  simp [layout, Layout.shortest]

theorem tagged_eq_shortest_iff (length : UInt32) (body : Bytes) (blob : Blob bound) :
    tagged length body = blob.layout.shortest ↔
      blob.bytes = body ∧ length.toNat = body.length := by
  have form : blob.layout.shortest = tagged (UInt32.ofNat blob.bytes.length) blob.bytes := by
    simp [layout, Layout.shortest, tagged, blob.toNat_length]
  rw [form]
  constructor
  · intro same
    rcases List.append_inj same (by simp) with ⟨digits, rfl⟩
    have lengths := BigEndian.eq_of_encode_eq length.toNat_lt (UInt32.toNat_lt _) digits
    exact ⟨rfl, lengths.trans blob.toNat_length⟩
  · rintro ⟨rfl, exact⟩
    rw [← exact, UInt32.ofNat_toNat]

/-- A body is accepted behind its length, if that is within the bound. -/
theorem decode_tagged_iff (length : UInt32) (body : Bytes) (blob : Blob bound) :
    (format bound).decode (tagged length body) = .ok blob ↔
      blob.bytes = body ∧ length.toNat = body.length := by
  rw [(format_follows bound).decode_eq_ok_iff, true_and,
    Layout.spelledBy_iff_eq_shortest blob.numbers_layout, tagged_eq_shortest_iff]

theorem exists_bytes_iff (body : Bytes) :
    (∃ blob : Blob bound, blob.bytes = body) ↔ body.length ≤ capacity bound := by
  constructor
  · rintro ⟨blob, rfl⟩
    exact blob.length_le
  · intro short
    exact ⟨⟨body, short⟩, rfl⟩

theorem exists_decode_tagged_iff (bound : Nat) (length : UInt32) (body : Bytes) :
    (∃ blob, (format bound).decode (tagged length body) = .ok blob) ↔
      length.toNat ≤ capacity bound ∧ length.toNat = body.length := by
  simp only [decode_tagged_iff, exists_and_right, exists_bytes_iff]
  constructor
  · rintro ⟨short, exact⟩
    exact ⟨exact ▸ short, exact⟩
  · rintro ⟨short, exact⟩
    exact ⟨exact ▸ short, exact⟩

end Blob

/-- Code and storage are accepted each behind its own length. -/
theorem Script.decode_tagged_iff (codeLength storageLength : UInt32) (code storage : Bytes) :
    (∃ script, script.code.bytes = code ∧ script.storage.bytes = storage ∧
      format.decode (Blob.tagged codeLength code ++ Blob.tagged storageLength storage) =
        .ok script) ↔
      (codeLength.toNat ≤ Blob.hardLimit ∧ codeLength.toNat = code.length) ∧
        storageLength.toNat ≤ Blob.hardLimit ∧ storageLength.toNat = storage.length := by
  have decode_iff (script : Script) (input : Bytes) : format.decode input = .ok script ↔
      input = script.code.layout.shortest ++ script.storage.layout.shortest := by
    rw [format_follows.decode_eq_ok_iff, true_and,
      Layout.spelledBy_iff_eq_shortest script.numbers_layout, layout, Layout.shortest_append]
  constructor
  · rintro ⟨script, rfl, rfl, decoded⟩
    rcases List.append_inj ((decode_iff _ _).mp decoded) (by simp) with ⟨front, back⟩
    have codeExact := ((Blob.tagged_eq_shortest_iff ..).mp front).2
    have storageExact := ((Blob.tagged_eq_shortest_iff ..).mp back).2
    have codeShort := script.code.length_le
    have storageShort := script.storage.length_le
    rw [Blob.capacity_hardLimit] at codeShort storageShort
    exact ⟨⟨codeExact ▸ codeShort, codeExact⟩, storageExact ▸ storageShort, storageExact⟩
  · rintro ⟨⟨codeShort, codeExact⟩, storageShort, storageExact⟩
    rw [codeExact, ← Blob.capacity_hardLimit, ← Blob.exists_bytes_iff] at codeShort
    rw [storageExact, ← Blob.capacity_hardLimit, ← Blob.exists_bytes_iff] at storageShort
    rcases codeShort with ⟨codeBlob, rfl⟩
    rcases storageShort with ⟨storageBlob, rfl⟩
    refine ⟨⟨codeBlob, storageBlob⟩, rfl, rfl, ?_⟩
    rw [decode_iff, (Blob.tagged_eq_shortest_iff ..).mpr ⟨rfl, codeExact⟩,
      (Blob.tagged_eq_shortest_iff ..).mpr ⟨rfl, storageExact⟩]

/-- The argument of a call is accepted behind its own length, and behind whatever is
accepted as an entrypoint. -/
theorem Parameters.decode_tagged_iff {front : Bytes} {entrypoint : Entrypoint}
    (decoded : Entrypoint.format.decode front = .ok entrypoint) (length : UInt32)
    (value : Bytes) :
    (∃ call, format.decode (front ++ Blob.tagged length value) = .ok call) ↔
      length.toNat ≤ Blob.hardLimit ∧ length.toNat = value.length := by
  have argument := Blob.exists_decode_tagged_iff Blob.hardLimit length value
  rw [Blob.capacity_hardLimit] at argument
  rw [Entrypoint.format_follows.decode_eq_ok_iff] at decoded
  rw [← argument]
  simp only [format_follows.decode_eq_ok_iff, (Blob.format_follows _).decode_eq_ok_iff, layout,
    Layout.spelledBy_append_iff, true_and]
  constructor
  · rintro ⟨call, canWrite, first, second, spelled, filled, split⟩
    rcases Entrypoint.format_follows.recognizes.unique decoded ⟨canWrite, spelled⟩ split with
      ⟨rfl, rfl, rfl⟩
    exact ⟨call.value, filled⟩
  · rintro ⟨blob, filled⟩
    exact ⟨⟨entrypoint, blob⟩, decoded.1, front, _, decoded.2, filled, rfl⟩

namespace WireType

/-- Whether values of the type hold numbers of variable length. -/
def hasNumbers : WireType → Bool
  | natural | integer | manager => true
  | revelation | transaction | origination | delegation | contents => true
  | option inner => inner.hasNumbers
  | _ => false

theorem canonical (type : WireType) (plain : type.hasNumbers = false) :
    type.format.Canonical := by
  induction type with
  | uint8 => exact Format.uint8_follows.canonical fun _ => rfl
  | int8 => exact Format.int8_follows.canonical fun _ => rfl
  | uint16 => exact Format.uint16_follows.canonical fun _ => rfl
  | int16 => exact Format.int16_follows.canonical fun _ => rfl
  | uint32 => exact Format.uint32_follows.canonical fun _ => rfl
  | int32 => exact Format.int32_follows.canonical fun _ => rfl
  | uint64 => exact Format.uint64_follows.canonical fun _ => rfl
  | int64 => exact Format.int64_follows.canonical fun _ => rfl
  | bool => exact Format.bool_follows.canonical fun _ => rfl
  | block size => exact (Format.block_follows size).canonical fun _ => rfl
  | option inner ih => exact (ih plain).option
  | blob bound => exact (Blob.format_follows bound).canonical Blob.numbers_layout
  | publicKey => exact PublicKey.format_follows.canonical PublicKey.numbers_layout
  | keyHash => exact KeyHash.format_follows.canonical KeyHash.numbers_layout
  | address => exact Address.format_follows.canonical Address.numbers_layout
  | identifier kind =>
      exact (Identifier.format_follows kind).canonical Identifier.numbers_layout
  | entrypoint => exact Entrypoint.format_follows.canonical Entrypoint.numbers_layout
  | parameters => exact Parameters.format_follows.canonical Parameters.numbers_layout
  | script => exact Script.format_follows.canonical Script.numbers_layout
  | endorsement => exact Endorsement.format_follows.canonical fun _ => rfl
  | natural | integer | manager => cases plain
  | revelation | transaction | origination | delegation | contents => cases plain

/-- A value of a type without numbers is decoded from the bytes that it is encoded as and
from no others.  It has one form at most, and exactly one if it can be written.  So the
name of an entrypoint is accepted just when its length and its text are right, and an
argument, code or storage just when its length is within the bound and right. -/
theorem decode_iff_encode :
    (∀ type : WireType, type.hasNumbers = false →
      (∀ input value,
        type.format.decode input = .ok value ↔ type.format.encode value = .ok input) ∧
      (∀ left right value, type.format.decode left = .ok value →
        type.format.decode right = .ok value → left = right) ∧
      ∀ value, (∃! input, type.format.decode input = .ok value) ↔ type.Writable value) ∧
    (∀ length name,
      (∃ entrypoint, Entrypoint.format.decode (0xff :: length :: name) = .ok entrypoint) ↔
        length.toNat = name.length ∧ (ByteArray.mk name.toArray).IsValidUTF8) ∧
    (∀ front entrypoint, Entrypoint.format.decode front = .ok entrypoint → ∀ length value,
      (∃ call, Parameters.format.decode (front ++ Blob.tagged length value) = .ok call) ↔
        length.toNat ≤ Blob.hardLimit ∧ length.toNat = value.length) ∧
    (∀ codeLength storageLength code storage,
      (∃ script, script.code.bytes = code ∧ script.storage.bytes = storage ∧
        Script.format.decode (Blob.tagged codeLength code ++ Blob.tagged storageLength storage) =
          .ok script) ↔
        (codeLength.toNat ≤ Blob.hardLimit ∧ codeLength.toNat = code.length) ∧
          storageLength.toNat ≤ Blob.hardLimit ∧ storageLength.toNat = storage.length) ∧
    ∀ bound length body,
      (∃ blob, (Blob.format bound).decode (Blob.tagged length body) = .ok blob) ↔
        length.toNat ≤ Blob.capacity bound ∧ length.toNat = body.length := by
  refine ⟨?_, Entrypoint.exists_decode_named_iff, ?_, Script.decode_tagged_iff,
    Blob.exists_decode_tagged_iff⟩
  · intro type plain
    have canonical := type.canonical plain
    refine ⟨canonical, fun _ _ _ => canonical.unique, ?_⟩
    intro value
    exact (canonical.existsUnique_iff value).trans (type.roundTrips_iff value)
  · intro front entrypoint decoded length value
    exact Parameters.decode_tagged_iff decoded length value

/-- An optional call of a named entrypoint has one form, in front of which a flag that is
neither of the two makes it the form of nothing. -/
theorem optionalCall_decode_iff_encode :
    let type := option parameters
    let call : Parameters := ⟨.named "é", ⟨[0x0b], by decide⟩⟩
    let form : Bytes := [0xff, 0xff, 0x02, 0xc3, 0xa9, 0x00, 0x00, 0x00, 0x01, 0x0b]
    type.hasNumbers = false ∧
      type.format.decode form = .ok (some call) ∧
      (∃! input, type.format.decode input = .ok (some call)) ∧
      ∀ value, type.format.encode value ≠ .ok (0x01 :: form) := by
  intro type call form
  have plain : type.hasNumbers = false := rfl
  obtain ⟨iff, -, unique⟩ := decode_iff_encode.1 type plain
  refine ⟨plain, (iff _ _).mpr (by decide +kernel), (unique _).mpr ?writable, ?refused⟩
  case writable =>
    have canWrite : call.Writable := by decide +kernel
    intro inside member
    obtain rfl := Option.mem_some.mp member
    exact canWrite
  case refused =>
    intro value encoded
    have refused : type.format.decode (0x01 :: form) = .error (.invalidVariant .bool 0x01) := rfl
    rw [← iff, refused] at encoded
    cases encoded

end WireType

end OperationForge
