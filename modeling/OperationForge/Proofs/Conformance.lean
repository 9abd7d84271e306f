import OperationForge.Proofs.Digits
import OperationForge.Proofs.Layout
import OperationForge.Wire.Format

/-!
# Formats that follow a layout

A format follows a layout when it reads a value from exactly the spellings of the
value's layout, and writes the shortest of them.  A format may have values that it
cannot write; those it never reads either.

Composed formats follow composed layouts, so that a format of records needs no
argument beyond the list of its parts.
-/

namespace OperationForge

/-- A byte that selects one of several kinds, and behind it what values of that
kind consist of.  `kind` and `body` take a value apart again. -/
theorem Reader.Recognizes.tagged {α κ : Type} {choice : Choice} {select : UInt8 → Option κ}
    {branch : κ → Reader α} {tag : κ → UInt8} {kind : α → κ} {writable : α → Prop}
    {body : α → Layout}
    (tag_eq : ∀ byte selected, select byte = some selected → tag selected = byte)
    (select_tag : ∀ value, select (tag (kind value)) = some (kind value))
    (branches : ∀ byte selected, select byte = some selected →
      (branch selected).Recognizes fun value used =>
        kind value = selected ∧ writable value ∧ (body value).SpelledBy used) :
    (Reader.choose choice select >>= branch).Recognizes fun value used =>
      writable value ∧
        Layout.SpelledBy (.fixed [tag (kind value)] :: body value) used := by
  apply ((Reader.Recognizes.choose choice select).bind fun selected _ spelled =>
    branches spelled.choose selected spelled.choose_spec.1).congr
  intro value used
  rw [Layout.spelledBy_fixed_iff]
  constructor
  · intro spelled
    rcases spelled with ⟨_, _, back, ⟨byte, selects, rfl⟩, ⟨rfl, canWrite, spelled⟩, rfl⟩
    rw [tag_eq _ _ selects]
    exact ⟨canWrite, back, spelled, rfl⟩
  · intro spelled
    rcases spelled with ⟨canWrite, back, spelled, rfl⟩
    exact ⟨kind value, _, back, ⟨_, select_tag value, rfl⟩, ⟨rfl, canWrite, spelled⟩, rfl⟩

namespace Format

variable {α β : Type}

/-- The format reads what the layout describes and writes its shortest spelling, and
it writes no other values. -/
structure Follows (format : Format α) (writable : α → Prop) (layout : α → Layout) : Prop where
  recognizes : format.read.Recognizes fun value used =>
    writable value ∧ (layout value).SpelledBy used
  write_eq : ∀ value, writable value → format.write value = .wrote (layout value).shortest
  writable_of_write : ∀ value bytes, format.write value = .wrote bytes → writable value

/-- Two formats, one after the other. -/
def pair (first : Format α) (second : Format β) : Format (α × β) where
  read := do
    let left ← first.read
    let right ← second.read
    pure (left, right)
  write value := first.write value.1 ++ second.write value.2

namespace Follows

variable {format : Format α} {writable : α → Prop} {layout : α → Layout}

/-- The whole of an input is read as a value exactly if it spells the value. -/
theorem decode_eq_ok_iff (follows : format.Follows writable layout) (input : Bytes) (value : α) :
    format.decode input = .ok value ↔ writable value ∧ (layout value).SpelledBy input :=
  follows.recognizes.exactly_eq_ok_iff input value

/-- What is written is the shortest spelling, and nothing for a value that cannot be. -/
theorem write_eq_wrote_iff (follows : format.Follows writable layout) (value : α)
    (bytes : Bytes) :
    format.write value = .wrote bytes ↔ writable value ∧ bytes = (layout value).shortest := by
  constructor
  · intro written
    have canWrite := follows.writable_of_write value bytes written
    rw [follows.write_eq value canWrite] at written
    exact ⟨canWrite, congrArg Output.bytes written.symm⟩
  · intro spelled
    rw [spelled.2]
    exact follows.write_eq value spelled.1

theorem encode_eq_ok_iff (follows : format.Follows writable layout) (value : α) (bytes : Bytes) :
    format.encode value = .ok bytes ↔ writable value ∧ bytes = (layout value).shortest := by
  rw [encode, Output.toExcept_eq_ok_iff, follows.write_eq_wrote_iff]

/-- What a value is encoded as is decoded as that value. -/
theorem decode_of_encode (follows : format.Follows writable layout) {value : α} {bytes : Bytes}
    (encoded : format.encode value = .ok bytes) : format.decode bytes = .ok value := by
  rcases (follows.encode_eq_ok_iff value bytes).mp encoded with ⟨canWrite, rfl⟩
  exact (follows.decode_eq_ok_iff _ value).mpr ⟨canWrite, (layout value).spelledBy_shortest⟩

theorem congr {canWrite : α → Prop} {parts : α → Layout}
    (follows : format.Follows writable layout)
    (sameValues : ∀ value, writable value ↔ canWrite value)
    (sameLayout : ∀ value, layout value = parts value) : format.Follows canWrite parts := by
  obtain rfl : writable = canWrite := funext fun value => propext (sameValues value)
  obtain rfl : layout = parts := funext sameLayout
  exact follows

theorem pair {second : Format β} {canWrite : β → Prop} {parts : β → Layout}
    (first : format.Follows writable layout) (follows : second.Follows canWrite parts) :
    (format.pair second).Follows (fun value => writable value.1 ∧ canWrite value.2)
      (fun value => layout value.1 ++ parts value.2) where
  recognizes := by
    apply (first.recognizes.bind fun left _ _ =>
      follows.recognizes.bind fun right _ _ =>
      Reader.Recognizes.pure (left, right)).congr
    intro value used
    rcases value with ⟨left, right⟩
    rw [Layout.spelledBy_append_iff]
    constructor
    · intro spelled
      rcases spelled with ⟨_, front, _, ⟨canLeft, frontSpelled⟩, behind, rfl⟩
      rcases behind with ⟨_, back, _, ⟨canRight, backSpelled⟩, ⟨equal, rfl⟩, rfl⟩
      cases equal
      exact ⟨⟨canLeft, canRight⟩, front, back, frontSpelled, backSpelled, by simp⟩
    · intro spelled
      rcases spelled with ⟨⟨canLeft, canRight⟩, front, back, frontSpelled, backSpelled, rfl⟩
      exact ⟨left, front, back, ⟨canLeft, frontSpelled⟩,
        ⟨right, back, [], ⟨canRight, backSpelled⟩, ⟨rfl, rfl⟩, (List.append_nil back).symm⟩, rfl⟩
  write_eq value canWrite := by
    simp only [Format.pair, first.write_eq value.1 canWrite.1,
      follows.write_eq value.2 canWrite.2, Output.wrote_append_wrote, Layout.shortest_append]
  writable_of_write value bytes written := by
    rcases (Output.append_eq_wrote_iff _ _ _).mp written with
      ⟨front, back, leftWritten, rightWritten, -⟩
    exact ⟨first.writable_of_write value.1 front leftWritten,
      follows.writable_of_write value.2 back rightWritten⟩

theorem translate (follows : format.Follows writable layout) {forth : α → β} {back : β → α}
    (forth_back : ∀ value, forth (back value) = value)
    (back_forth : ∀ source, back (forth source) = source) :
    (format.translate forth back).Follows (fun value => writable (back value))
      (fun value => layout (back value)) where
  recognizes := by
    apply (follows.recognizes.map forth).congr
    intro value used
    constructor
    · intro spelled
      rcases spelled with ⟨source, spelled, rfl⟩
      rwa [back_forth]
    · intro spelled
      exact ⟨back value, spelled, forth_back value⟩
  write_eq value canWrite := follows.write_eq (back value) canWrite
  writable_of_write value := follows.writable_of_write (back value)

end Follows

/-- A block has no form but itself. -/
theorem block_follows (size : Nat) :
    (block size).Follows (fun _ => True) (fun value => [.fixed value.toList]) where
  recognizes := by
    apply (Reader.Recognizes.take size).congr
    intro value used
    simp [Layout.spelledBy_fixed_iff]
  write_eq value _ := by
    simp [block, Layout.shortest]
  writable_of_write _ _ _ := trivial

/-- The byte of a flag. -/
def flagByte (value : Bool) : UInt8 := if value then 0xff else 0x00

theorem flagByte_of_flag? {byte : UInt8} {value : Bool} (found : flag? byte = some value) :
    flagByte value = byte := by
  unfold flag? at found
  split at found
  · cases found
    simp_all [flagByte]
  · split at found
    · cases found
      simp_all [flagByte]
    · cases found

@[simp] theorem flag?_flagByte (value : Bool) : flag? (flagByte value) = some value := by
  cases value <;> rfl

theorem bool_follows : bool.Follows (fun _ => True) (fun value => [.fixed [flagByte value]]) where
  recognizes := by
    apply (Reader.Recognizes.choose .bool flag?).congr
    intro value used
    rw [Layout.spelledBy_singleton_iff, true_and]
    constructor
    · intro spelled
      rcases spelled with ⟨tag, found, rfl⟩
      rw [flagByte_of_flag? found]
    · rintro rfl
      exact ⟨flagByte value, flag?_flagByte value, rfl⟩
  write_eq value _ := by
    cases value <;> rfl
  writable_of_write _ _ _ := trivial

/-- The layout of a value that may be missing: a flag, and the parts behind a set one. -/
def optionLayout (layout : α → Layout) : Option α → Layout
  | none => [.fixed [0x00]]
  | some value => .fixed [0xff] :: layout value

theorem numbers_optionLayout {layout : α → Layout} (plain : ∀ value, (layout value).numbers = [])
    (value? : Option α) : (optionLayout layout value?).numbers = [] := by
  cases value? with
  | none => rfl
  | some value => exact plain value

theorem Follows.option {format : Format α} {writable : α → Prop} {layout : α → Layout}
    (follows : format.Follows writable layout) :
    format.option.Follows (fun value? => ∀ value ∈ value?, writable value)
      (optionLayout layout) where
  recognizes := by
    have behind (present : Bool) :
        (if present then some <$> format.read else pure none).Recognizes fun value? used =>
          value?.isSome = present ∧ (∀ value ∈ value?, writable value) ∧
            Layout.SpelledBy (value?.elim [] layout) used := by
      cases present with
      | false =>
          apply (Reader.Recognizes.pure none).congr
          intro value? used
          cases value? <;> simp
      | true =>
          apply (follows.recognizes.map some).congr
          intro value? used
          cases value? <;> simp
    apply (Reader.Recognizes.tagged (fun _ _ => flagByte_of_flag?)
      (fun _ => flag?_flagByte _) fun _ present _ => behind present).congr
    intro value? used
    cases value? <;> rfl
  write_eq := by
    intro value? canWrite
    cases value? with
    | none => rfl
    | some value =>
        simp only [Format.option, follows.write_eq value (canWrite value rfl)]
        rfl
  writable_of_write := by
    intro value? bytes written value present
    cases present
    rcases (Output.append_eq_wrote_iff _ _ _).mp written with ⟨_, back, -, written, -⟩
    exact follows.writable_of_write value back written

end Format

/-! ## Numbers -/

namespace Format

variable {α β : Type}

/-- A number of fixed width has no form but its digits. -/
theorem bigEndian_follows {width : Nat} {ofNat : Nat → α} {toNat : α → Nat}
    (ofNat_toNat : ∀ value, ofNat (toNat value) = value)
    (toNat_lt : ∀ value, toNat value < 256 ^ width)
    (toNat_ofNat : ∀ number < 256 ^ width, toNat (ofNat number) = number) :
    (bigEndian width ofNat toNat).Follows (fun _ => True)
      (fun value => [.fixed (BigEndian.encode width (toNat value))]) := by
  apply (block_follows width).translate
  · intro value
    change ofNat (BigEndian.decode (BigEndian.encode width (toNat value))) = value
    rw [BigEndian.decode_encode, Nat.mod_eq_of_lt (toNat_lt value), ofNat_toNat]
  · intro block
    rcases block with ⟨bytes, rfl⟩
    apply FixedBytes.ext
    change BigEndian.encode bytes.length (toNat (ofNat (BigEndian.decode bytes))) = bytes
    rw [toNat_ofNat _ (BigEndian.decode_lt bytes), BigEndian.encode_decode]

theorem uint8_follows :
    uint8.Follows (fun _ => True) (fun value => [.fixed (BigEndian.encode 1 value.toNat)]) :=
  bigEndian_follows (fun _ => UInt8.ofNat_toNat) (fun value => value.toNat_lt)
    fun _ small => UInt8.toNat_ofNat_of_lt' small

theorem uint16_follows :
    uint16.Follows (fun _ => True) (fun value => [.fixed (BigEndian.encode 2 value.toNat)]) :=
  bigEndian_follows (fun _ => UInt16.ofNat_toNat) (fun value => value.toNat_lt)
    fun _ small => UInt16.toNat_ofNat_of_lt' small

theorem uint32_follows :
    uint32.Follows (fun _ => True) (fun value => [.fixed (BigEndian.encode 4 value.toNat)]) :=
  bigEndian_follows (fun _ => UInt32.ofNat_toNat) (fun value => value.toNat_lt)
    fun _ small => UInt32.toNat_ofNat_of_lt' small

theorem uint64_follows :
    uint64.Follows (fun _ => True) (fun value => [.fixed (BigEndian.encode 8 value.toNat)]) :=
  bigEndian_follows (fun _ => UInt64.ofNat_toNat) (fun value => value.toNat_lt)
    fun _ small => UInt64.toNat_ofNat_of_lt' small

theorem int8_follows :
    int8.Follows (fun _ => True)
      (fun value => [.fixed (BigEndian.encode 1 value.toUInt8.toNat)]) :=
  uint8_follows.translate (fun _ => rfl) (fun _ => rfl)

theorem int16_follows :
    int16.Follows (fun _ => True)
      (fun value => [.fixed (BigEndian.encode 2 value.toUInt16.toNat)]) :=
  uint16_follows.translate (fun _ => rfl) (fun _ => rfl)

theorem int32_follows :
    int32.Follows (fun _ => True)
      (fun value => [.fixed (BigEndian.encode 4 value.toUInt32.toNat)]) :=
  uint32_follows.translate (fun _ => rfl) (fun _ => rfl)

theorem int64_follows :
    int64.Follows (fun _ => True)
      (fun value => [.fixed (BigEndian.encode 8 value.toUInt64.toNat)]) :=
  uint64_follows.translate (fun _ => rfl) (fun _ => rfl)

end Format

/-- A number of variable length may be padded. -/
theorem Zarith.natural_follows :
    Zarith.natural.Follows (fun _ => True) (fun value => [.number value]) where
  recognizes := by
    apply Zarith.natural_recognizes.congr
    intro value used
    rw [Layout.spelledBy_singleton_number_iff, Zarith.decodeUnsigned_eq_ok_iff, true_and]
  write_eq value _ := by
    simp [Zarith.natural, Layout.shortest]
  writable_of_write _ _ _ := trivial

end OperationForge
