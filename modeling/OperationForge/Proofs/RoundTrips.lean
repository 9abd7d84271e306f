import OperationForge.Proofs.Entries
import OperationForge.Proofs.SignedForms
import OperationForge.WireType

/-!
# Values that are read back

A value that can be encoded is decoded from what it is encoded as.  On the wire only names
of entrypoints can be too long to be encoded, so a value round-trips exactly if it holds no
such name.
-/

namespace OperationForge

namespace Format

variable {α : Type} {format : Format α}

/-- The value can be encoded, and is decoded from what it is encoded as. -/
def RoundTrips (format : Format α) (value : α) : Prop :=
  ∃ bytes, format.encode value = .ok bytes ∧ format.decode bytes = .ok value

theorem Follows.roundTrips_iff {writable : α → Prop} {layout : α → Layout}
    (follows : format.Follows writable layout) (value : α) :
    format.RoundTrips value ↔ writable value := by
  constructor
  · rintro ⟨bytes, encoded, -⟩
    exact ((follows.encode_eq_ok_iff value bytes).mp encoded).1
  · intro canWrite
    have encoded := (follows.encode_eq_ok_iff value _).mpr ⟨canWrite, rfl⟩
    exact ⟨_, encoded, follows.decode_of_encode encoded⟩

/-! ## Optional values -/

theorem decode_option_eq_ok_iff (input : Bytes) (value? : Option α) :
    format.option.decode input = .ok value? ↔
      (value? = none ∧ input = [0x00]) ∨
        ∃ value body, value? = some value ∧ input = 0xff :: body ∧
          format.decode body = .ok value := by
  have flag (present : Bool) (behind : Bytes) :
      bool.read.run input = ⟨.ok present, behind⟩ ↔ input = flagByte present :: behind := by
    rw [bool_follows.recognizes]
    simp
  simp only [decode, Reader.exactly_eq_ok_iff, option, Reader.run_bind_eq_ok_iff, flag]
  constructor
  · rintro ⟨present, behind, rfl, answer⟩
    cases present with
    | false =>
        obtain ⟨rfl, rfl⟩ : none = value? ∧ behind = [] := by simpa using answer
        exact .inl ⟨rfl, rfl⟩
    | true =>
        rw [if_pos rfl, map_eq_pure_bind, Reader.run_bind_eq_ok_iff] at answer
        rcases answer with ⟨value, rest, answer, wrapped⟩
        cases wrapped
        exact .inr ⟨value, behind, rfl, rfl, answer⟩
  · rintro (⟨rfl, rfl⟩ | ⟨value, body, rfl, rfl, answer⟩)
    · exact ⟨false, [], rfl, rfl⟩
    · refine ⟨true, body, rfl, ?_⟩
      rw [if_pos rfl, map_eq_pure_bind, Reader.run_bind_of_ok answer]
      rfl

theorem encode_option_eq_ok_iff (value? : Option α) (bytes : Bytes) :
    format.option.encode value? = .ok bytes ↔
      (value? = none ∧ bytes = [0x00]) ∨
        ∃ value body, value? = some value ∧ bytes = 0xff :: body ∧
          format.encode value = .ok body := by
  simp only [encode, Output.toExcept_eq_ok_iff]
  cases value? with
  | none =>
      have written : format.option.write none = .wrote [0x00] := rfl
      rw [written]
      constructor
      · intro equal
        exact .inl ⟨rfl, (congrArg Output.bytes equal).symm⟩
      · rintro (⟨-, rfl⟩ | ⟨_, _, impossible, -⟩)
        · rfl
        · cases impossible
  | some value =>
      have written : format.option.write (some value) = .wrote [0xff] ++ format.write value := rfl
      rw [written, Output.append_eq_wrote_iff]
      constructor
      · rintro ⟨front, body, flag, written, rfl⟩
        cases flag
        exact .inr ⟨value, body, rfl, rfl, written⟩
      · rintro (⟨impossible, -⟩ | ⟨_, body, same, rfl, written⟩)
        · cases impossible
        · cases same
          exact ⟨[0xff], body, rfl, written, rfl⟩

theorem decode_some_eq_ok_iff (input : Bytes) (value : α) :
    format.option.decode input = .ok (some value) ↔
      ∃ body, input = 0xff :: body ∧ format.decode body = .ok value := by
  simp [decode_option_eq_ok_iff]

theorem encode_some_eq_ok_iff (value : α) (bytes : Bytes) :
    format.option.encode (some value) = .ok bytes ↔
      ∃ body, bytes = 0xff :: body ∧ format.encode value = .ok body := by
  simp [encode_option_eq_ok_iff]

theorem roundTrips_option_iff (value? : Option α) :
    format.option.RoundTrips value? ↔ ∀ value ∈ value?, format.RoundTrips value := by
  cases value? with
  | none => exact iff_of_true ⟨[0x00], rfl, rfl⟩ nofun
  | some value =>
      constructor
      · rintro ⟨bytes, encoded, decoded⟩ inside member
        obtain rfl := Option.mem_some.mp member
        rcases (encode_some_eq_ok_iff _ _).mp encoded with ⟨body, rfl, written⟩
        rcases (decode_some_eq_ok_iff _ _).mp decoded with ⟨_, same, read⟩
        cases same
        exact ⟨body, written, read⟩
      · intro roundTrips
        rcases roundTrips value rfl with ⟨body, encoded, decoded⟩
        refine ⟨0xff :: body, ?_, ?_⟩
        · exact (encode_some_eq_ok_iff _ _).mpr ⟨body, rfl, encoded⟩
        · exact (decode_some_eq_ok_iff _ _).mpr ⟨body, rfl, decoded⟩

end Format

theorem Zarith.roundTrips_integer (number : Int) : integer.RoundTrips number := by
  refine ⟨encodeSigned number, rfl, ?_⟩
  have spelled := groups_recognizes intOfGroups
  rw [Format.decode, integer, spelled.exactly_eq_ok_iff]
  exact ⟨number_encodeSigned number, intOfGroups_encodeSigned number⟩

namespace WireType

/-- Whether the value can be written: names of entrypoints can be too long. -/
def Writable : (type : WireType) → type.Value → Prop
  | option inner => fun value? : Option inner.Value => ∀ value ∈ value?, inner.Writable value
  | entrypoint => Entrypoint.Writable
  | parameters => Parameters.Writable
  | transaction => Transaction.Writable
  | contents => Contents.Writable
  | _ => fun _ => True

theorem roundTrips_iff (type : WireType) (value : type.Value) :
    type.format.RoundTrips value ↔ type.Writable value := by
  induction type with
  | uint8 => exact Format.uint8_follows.roundTrips_iff value
  | int8 => exact Format.int8_follows.roundTrips_iff value
  | uint16 => exact Format.uint16_follows.roundTrips_iff value
  | int16 => exact Format.int16_follows.roundTrips_iff value
  | uint32 => exact Format.uint32_follows.roundTrips_iff value
  | int32 => exact Format.int32_follows.roundTrips_iff value
  | uint64 => exact Format.uint64_follows.roundTrips_iff value
  | int64 => exact Format.int64_follows.roundTrips_iff value
  | bool => exact Format.bool_follows.roundTrips_iff value
  | block size => exact (Format.block_follows size).roundTrips_iff value
  | option inner ih =>
      have inside := @Format.roundTrips_option_iff _ inner.format value
      simp only [ih] at inside
      exact inside
  | blob bound => exact (Blob.format_follows bound).roundTrips_iff value
  | natural => exact Zarith.natural_follows.roundTrips_iff value
  | integer => exact iff_of_true (Zarith.roundTrips_integer value) trivial
  | publicKey => exact PublicKey.format_follows.roundTrips_iff value
  | keyHash => exact KeyHash.format_follows.roundTrips_iff value
  | address => exact Address.format_follows.roundTrips_iff value
  | identifier kind => exact (Identifier.format_follows kind).roundTrips_iff value
  | entrypoint => exact Entrypoint.format_follows.roundTrips_iff value
  | parameters => exact Parameters.format_follows.roundTrips_iff value
  | script => exact Script.format_follows.roundTrips_iff value
  | manager => exact Manager.format_follows.roundTrips_iff value
  | revelation => exact Revelation.format_follows.roundTrips_iff value
  | transaction => exact Transaction.format_follows.roundTrips_iff value
  | origination => exact Origination.format_follows.roundTrips_iff value
  | delegation => exact Delegation.format_follows.roundTrips_iff value
  | endorsement => exact Endorsement.format_follows.roundTrips_iff value
  | contents => exact Contents.format_follows.roundTrips_iff value

end WireType

end OperationForge
