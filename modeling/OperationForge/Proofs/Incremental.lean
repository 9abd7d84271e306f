import OperationForge.Proofs.Malformed
import OperationForge.Wire.Cursor
import OperationForge.WireType

/-!
# Input that comes in piece by piece

A reader of a wire type needs to see its value and nothing behind it.  More input never
changes a value that was read or mends input that is malformed, and less input than a
value takes up is never another value: the reader says that it wants more.
-/

namespace OperationForge

variable {α : Type}

namespace Cursor

/-- A reader does at a cursor what it does with the bytes that are left. -/
theorem exists_read (cursor : Cursor) {reader : Reader α} {outcome : Except WireError α}
    {rest : Bytes} (answer : reader.run cursor.rest = ⟨outcome, rest⟩) :
    ∃ after, cursor.read reader = (outcome, after) ∧
      after.buffer = cursor.buffer ∧ after.rest = rest := by
  refine ⟨(cursor.read reader).2, ?_, rfl, congrArg Read.rest answer⟩
  exact Prod.ext (congrArg Read.outcome answer) rfl

/-- A cursor has moved on by the bytes that are no longer left. -/
theorem position_of_rest {before after : Cursor} {used : Bytes}
    (same : after.buffer = before.buffer) (split : before.rest = used ++ after.rest) :
    after.position = before.position + used.length := by
  have short := before.rest_suffix.length_le
  have length := congrArg List.length split
  rw [List.length_append] at length
  rw [position, position, same]
  omega

@[simp] theorem position_start (buffer : Bytes) : (start buffer).position = 0 :=
  Nat.sub_self buffer.length

end Cursor

namespace Reader

variable {reader : Reader α}

/-- At the front of the input the reader comes to the outcome, and moves a cursor on by
`count` bytes. -/
def Yields (reader : Reader α) (input : Bytes) (outcome : Except WireError α) (count : Nat) :
    Prop :=
  ∃ after, (Cursor.start input).read reader = (outcome, after) ∧ after.position = count

theorem yields_iff (input : Bytes) (outcome : Except WireError α) (count : Nat) :
    reader.Yields input outcome count ↔
      ∃ used rest, input = used ++ rest ∧ used.length = count ∧
        reader.run input = ⟨outcome, rest⟩ := by
  constructor
  · rintro ⟨after, answer, rfl⟩
    cases answer
    rcases reader.rest_suffix input with ⟨used, split⟩
    let start := Cursor.start input
    have moved : (start.read reader).2.position = start.position + used.length :=
      Cursor.position_of_rest rfl split.symm
    rw [Cursor.position_start, Nat.zero_add] at moved
    exact ⟨used, _, split.symm, moved.symm, rfl⟩
  · rintro ⟨used, rest, split, rfl, answer⟩
    rcases Cursor.exists_read (.start input) answer with ⟨after, reads, same, rfl⟩
    refine ⟨after, reads, ?_⟩
    rw [Cursor.position_of_rest same split, Cursor.position_start, Nat.zero_add]

/-- The bytes that were taken spell the value in front of anything else as well. -/
theorem Incremental.yields_append (incremental : reader.Incremental) {buffer : Bytes} {value : α}
    {count : Nat} (answer : reader.Yields buffer (.ok value) count) (more : Bytes) :
    reader.Yields (buffer.take count ++ more) (.ok value) count := by
  rcases (yields_iff _ _ _).mp answer with ⟨used, rest, rfl, rfl, run⟩
  rw [yields_iff, List.take_left]
  exact ⟨used, more, rfl, rfl, incremental.run_append run more⟩

/-- Without the last of the bytes that were taken there is too little input. -/
theorem Incremental.yields_shortage (incremental : reader.Incremental) {buffer : Bytes}
    {value : α} {count cut : Nat} (answer : reader.Yields buffer (.ok value) count)
    (short : cut < count) :
    ∃ error position, error.Shortage ∧
      reader.Yields (buffer.take cut) (.error error) position := by
  rcases (yields_iff _ _ _).mp answer with ⟨used, rest, rfl, rfl, run⟩
  rw [List.take_append_of_le_length (Nat.le_of_lt short)]
  rcases incremental.starved_of_take run short with ⟨error, shortage, failed⟩
  exact ⟨error, _, shortage, _, Prod.ext failed rfl, rfl⟩

/-- An error that is not for want of input is there to stay. -/
theorem Decisive.yields_error (decisive : reader.Decisive) {buffer : Bytes} {error : WireError}
    {count : Nat} (answer : reader.Yields buffer (.error error) count)
    (enough : ¬error.Shortage) (more : Bytes) :
    reader.Yields (buffer ++ more) (.error error) count := by
  rcases (yields_iff _ _ _).mp answer with ⟨used, rest, rfl, length, run⟩
  have final := decisive (used ++ rest) more
  rw [run] at final
  rcases final with ⟨other, shortage, equal⟩ | final
  · cases equal
    exact absurd shortage enough
  · rw [yields_iff]
    exact ⟨used, rest ++ more, List.append_assoc used rest more, length, final⟩

end Reader

theorem WireError.Shortage.eq_or_eq {error : WireError} (shortage : error.Shortage) :
    error = .outOfBounds ∨ error = .unterminatedZarith := by
  cases shortage with
  | outOfBounds => exact .inl rfl
  | unterminatedZarith => exact .inr rfl

/-! ## Wire types -/

theorem Reader.incremental_expectTag (expected : UInt8) : (expectTag expected).Incremental := by
  apply Incremental.byte.bind
  intro actual
  split
  · exact .pure ()
  · exact .fail _

theorem Format.incremental_option {format : Format α} (incremental : format.read.Incremental) :
    format.option.read.Incremental := by
  apply plain_bool.incremental.bind
  intro present
  cases present with
  | false => exact .pure none
  | true => exact incremental.map some

/-- A tag is no obstacle, be it the expected one or not. -/
theorem ContentsKind.TagsPlain.incremental {kind : ContentsKind} {format : Format α}
    (tags : kind.TagsPlain format) : format.read.Incremental := by
  rcases tags with ⟨body, plain, rfl⟩
  exact (Reader.incremental_expectTag kind.tag).bind fun _ => plain.incremental

theorem Blob.incremental_format (bound : Nat) : (format bound).read.Incremental :=
  (composed_format (fun _ => True) bound fun _ _ _ => trivial).incremental

namespace WireType

theorem incremental (type : WireType) : type.format.read.Incremental := by
  have unsigned {β : Type} (width : Nat) (ofNat : Nat → β) (toNat : β → Nat) :
      (Format.bigEndian width ofNat toNat).read.Incremental :=
    (Format.plain_bigEndian width ofNat toNat).incremental
  induction type with
  | uint8 | uint16 | uint32 | uint64 => exact unsigned ..
  | int8 | int16 | int32 | int64 => exact (unsigned ..).map _
  | bool => exact Format.plain_bool.incremental
  | block size => exact ⟨Reader.decisive_take size, _, .take size⟩
  | option inner ih => exact Format.incremental_option ih
  | blob bound => exact Blob.incremental_format bound
  | natural => exact Zarith.plain_natural.incremental
  | integer => exact Zarith.plain_integer.incremental
  | publicKey => exact PublicKey.plain_format.incremental
  | keyHash => exact KeyHash.plain_format.incremental
  | address => exact Address.plain_format.incremental
  | identifier kind => exact (Identifier.plain_format kind).incremental
  | entrypoint => exact Entrypoint.plain_format.incremental
  | parameters => exact Parameters.plain_format.incremental
  | script => exact Script.plain_format.incremental
  | manager => exact Manager.plain_format.incremental
  | revelation => exact Revelation.tagsPlain.incremental
  | transaction => exact Transaction.tagsPlain.incremental
  | origination => exact Origination.tagsPlain.incremental
  | delegation => exact Delegation.tagsPlain.incremental
  | endorsement => exact Endorsement.tagsPlain.incremental
  | contents => exact Contents.incremental_read

/-- Reading a value needs the bytes of that value and nothing more: they can be followed
by anything, and without the last of them there is too little input.  An error that is
not for want of input stays the same, at the same place, whatever follows. -/
theorem read_incremental (type : WireType) (buffer more : Bytes) :
    (∀ value count, type.format.read.Yields buffer (.ok value) count →
      type.format.read.Yields (buffer.take count ++ more) (.ok value) count ∧
        ∀ cut < count, ∃ error position,
          (error = .outOfBounds ∨ error = .unterminatedZarith) ∧
            type.format.read.Yields (buffer.take cut) (.error error) position) ∧
    ∀ error count, type.format.read.Yields buffer (.error error) count →
      error ≠ .outOfBounds → error ≠ .unterminatedZarith →
        type.format.read.Yields (buffer ++ more) (.error error) count := by
  have incremental := type.incremental
  constructor
  · intro value count answer
    refine ⟨incremental.yields_append answer more, ?_⟩
    intro cut short
    rcases incremental.yields_shortage answer short with ⟨error, position, shortage, failed⟩
    exact ⟨error, position, shortage.eq_or_eq, failed⟩
  · intro error count answer inBounds terminated
    apply incremental.decisive.yields_error answer
    intro shortage
    exact shortage.eq_or_eq.elim inBounds terminated

/-- Manager fields with a padded fee, in front of other bytes, cut short within the last
number but one, and behind a tag of no curve. -/
theorem manager_incremental :
    let owner : KeyHash := ⟨.ed25519, ⟨List.replicate 20 0x0a, rfl⟩⟩
    let fields : Bytes :=
      [0x00] ++ owner.hash.toList ++ [0x81, 0x80, 0x00, 0x02, 0xac, 0x02, 0x00]
    let reader := manager.format.read
    reader.Yields (fields ++ [0x55]) (.ok ⟨owner, 1, 2, 300, 0⟩) 28 ∧
      reader.Yields (fields ++ [0xff, 0xff]) (.ok ⟨owner, 1, 2, 300, 0⟩) 28 ∧
      (∃ error position, (error = .outOfBounds ∨ error = .unterminatedZarith) ∧
        reader.Yields ((fields ++ [0x55]).take 26) (.error error) position) ∧
      reader.Yields [0x03] (.error (.invalidVariant .keyHash 0x03)) 1 ∧
      reader.Yields ([0x03] ++ fields) (.error (.invalidVariant .keyHash 0x03)) 1 := by
  intro owner fields reader
  have taken : reader.Yields (fields ++ [0x55]) (.ok ⟨owner, 1, 2, 300, 0⟩) 28 := ⟨_, rfl, rfl⟩
  have refused : reader.Yields [0x03] (.error (.invalidVariant .keyHash 0x03)) 1 := ⟨_, rfl, rfl⟩
  have whole := (read_incremental manager (fields ++ [0x55]) [0xff, 0xff]).1 _ _ taken
  refine ⟨taken, whole.1, whole.2 26 (by decide), refused, ?_⟩
  exact (read_incremental manager [0x03] fields).2 _ _ refused (by decide) (by decide)

end WireType

end OperationForge
