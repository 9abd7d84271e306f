import OperationForge.Operation.Contents
import OperationForge.Proofs.Composed
import OperationForge.Proofs.Entries
import OperationForge.Zarith.Integer

/-!
# Malformed input

Entries are read by composed readers behind a tag that is looked at first.  So an
entry cannot be read because its input ends too early, or because it holds what no
entry is written as: a byte that selects nothing, a length beyond the hard limit, or
a name that is no text.  An answer of the second kind stays the same whatever follows.
-/

namespace OperationForge

/-- The bytes that select an alternative. -/
def Choice.alternatives : Choice → Bytes
  | .bool => [0x00, 0xff]
  | .publicKey | .keyHash => [0, 1, 2]
  | .address => [0, 1]
  | .addressPadding => [0]
  | .entrypoint => [0, 1, 2, 3, 4, 255]
  | .contents => [0, 107, 108, 109, 110]

/-- The errors of inputs that hold what no entry is written as. -/
inductive WireError.Malformed : WireError → Prop where
  | overflowContainer {length : Nat} :
      Blob.hardLimit < length → length < 2 ^ 32 → Malformed (.overflowContainer length)
  | invalidVariant {choice : Choice} {byte : UInt8} :
      byte ∉ choice.alternatives → Malformed (.invalidVariant choice byte)
  | invalidUtf8 (fault : Utf8.Fault) : Malformed (.invalidUtf8 fault)

/-- The reader is composed, and the errors that it raises are those of malformed
input. -/
abbrev Reader.Plain {α : Type} (reader : Reader α) : Prop :=
  reader.Composed WireError.Malformed

theorem WireError.Malformed.of_unselected {α : Type} {choice : Choice}
    {select : UInt8 → Option α} (covers : choice.alternatives.all fun byte => (select byte).isSome)
    {byte : UInt8} (unselected : select byte = none) : Malformed (.invalidVariant choice byte) := by
  apply Malformed.invalidVariant
  intro member
  have selected := List.all_eq_true.mp covers byte member
  rw [unselected] at selected
  cases selected

theorem Reader.plain_choose {α : Type} {choice : Choice} {select : UInt8 → Option α}
    (covers : choice.alternatives.all fun byte => (select byte).isSome) :
    (choose choice select).Plain :=
  Composed.choose fun _ => .of_unselected covers

namespace Format

variable {α β : Type} {format : Format α}

theorem plain_bool : bool.read.Plain :=
  Reader.plain_choose (by decide)

theorem plain_option (plain : format.read.Plain) : format.option.read.Plain := by
  apply plain_bool.bind
  intro present
  cases present with
  | false => exact .pure none
  | true => exact plain.map some

theorem plain_bigEndian (width : Nat) (ofNat : Nat → α) (toNat : α → Nat) :
    (bigEndian width ofNat toNat).read.Plain :=
  (Reader.Composed.take width).map _

theorem plain_translate (plain : format.read.Plain) (forth : α → β) (back : β → α) :
    (format.translate forth back).read.Plain :=
  plain.map forth

end Format

theorem Zarith.plain_natural : Zarith.natural.read.Plain :=
  Reader.Composed.readGroups.map _

theorem Zarith.plain_integer : Zarith.integer.read.Plain :=
  Reader.Composed.readGroups.map _

theorem Identifier.plain_format (kind : Prefix) : (Identifier.format kind).read.Plain :=
  Format.plain_translate (Reader.Composed.take 32) _ _

theorem KeyHash.plain_format : KeyHash.format.read.Plain := by
  apply (Reader.plain_choose (by decide)).bind
  intro curve
  exact (Reader.Composed.take 20).bind fun _ => .pure _

theorem PublicKey.plain_format : PublicKey.format.read.Plain := by
  apply (Reader.plain_choose (by decide)).bind
  intro curve
  exact (Reader.Composed.take curve.publicKeyLength).bind fun _ => .pure _

theorem Address.plain_format : Address.format.read.Plain := by
  apply (Reader.plain_choose (by decide)).bind
  intro kind
  cases kind with
  | implicit => exact KeyHash.plain_format.map implicit
  | originated =>
      have padding : readPadding.Plain := Reader.plain_choose (by decide)
      exact (Reader.Composed.take 20).bind fun _ => padding.bind fun _ => .pure _

namespace Blob

/-- Blobs are composed for all who take a length beyond the capacity for an error. -/
theorem composed_format (raised : WireError → Prop) (bound : Nat)
    (overflows : ∀ length, capacity bound < length → length < 2 ^ 32 →
      raised (.overflowContainer length)) : (format bound).read.Composed raised := by
  apply ((Reader.Composed.take 4).map _).bind
  intro length
  rw [readBody]
  split
  · exact (Reader.Composed.take length.toNat).map _
  · next long => exact .fail (overflows _ (Nat.lt_of_not_le long) length.toNat_lt)

/-- Payloads have no bound but the hard limit, so a length that does not fit is beyond
that one. -/
theorem plain_format : (format hardLimit).read.Plain := by
  apply composed_format
  intro length long small
  rw [capacity, Nat.min_self] at long
  exact .overflowContainer long small

end Blob

namespace Entrypoint

theorem plain_readName : readName.Plain := by
  apply Reader.Composed.byte.bind
  intro length
  apply (Reader.Composed.takeList length.toNat).bind
  intro bytes
  split
  · next name _ => exact .pure (named name)
  · next fault _ => exact .fail (.invalidUtf8 fault)

theorem plain_format : format.read.Plain := by
  apply (Reader.plain_choose (by decide)).bind
  intro announced
  cases announced with
  | none => exact plain_readName
  | some reserved => exact .pure reserved

end Entrypoint

theorem Parameters.plain_format : Parameters.format.read.Plain :=
  Entrypoint.plain_format.bind fun _ => Blob.plain_format.bind fun _ => .pure _

theorem Script.plain_format : Script.format.read.Plain :=
  Blob.plain_format.bind fun _ => Blob.plain_format.bind fun _ => .pure _

theorem Manager.plain_format : Manager.format.read.Plain := by
  have number := Zarith.plain_natural
  exact KeyHash.plain_format.bind fun _ => number.bind fun _ => number.bind fun _ =>
    number.bind fun _ => number.bind fun _ => .pure _

/-! ## Entries -/

/-- The format puts a plain one behind the tag of the kind. -/
def ContentsKind.TagsPlain {α : Type} (kind : ContentsKind) (format : Format α) : Prop :=
  ∃ body : Format α, body.read.Plain ∧ format = kind.tagged body

theorem Revelation.tagsPlain : ContentsKind.revelation.TagsPlain Revelation.format :=
  ⟨_, Manager.plain_format.bind fun _ => PublicKey.plain_format.bind fun _ => .pure _, rfl⟩

theorem Transaction.tagsPlain : ContentsKind.transaction.TagsPlain Transaction.format := by
  have call := Format.plain_option Parameters.plain_format
  refine ⟨_, ?_, rfl⟩
  exact Manager.plain_format.bind fun _ => Zarith.plain_natural.bind fun _ =>
    Address.plain_format.bind fun _ => call.bind fun _ => .pure _

theorem Origination.tagsPlain : ContentsKind.origination.TagsPlain Origination.format := by
  have delegate := Format.plain_option KeyHash.plain_format
  refine ⟨_, ?_, rfl⟩
  exact Manager.plain_format.bind fun _ => Zarith.plain_natural.bind fun _ =>
    delegate.bind fun _ => Script.plain_format.bind fun _ => .pure _

theorem Delegation.tagsPlain : ContentsKind.delegation.TagsPlain Delegation.format := by
  have delegate := Format.plain_option KeyHash.plain_format
  exact ⟨_, Manager.plain_format.bind fun _ => delegate.bind fun _ => .pure _, rfl⟩

theorem Endorsement.tagsPlain : ContentsKind.endorsement.TagsPlain Endorsement.format := by
  have level : Format.int32.read.Plain := Format.plain_translate (Format.plain_bigEndian ..) _ _
  exact ⟨_, Format.plain_translate level _ _, rfl⟩

/-- A tag that is the expected one is taken, and the body is read behind it. -/
theorem ContentsKind.TagsPlain.exists_plain {α β : Type} {kind : ContentsKind}
    {format : Format α} (tags : kind.TagsPlain format) (image : α → β) :
    ∃ body : Reader β, body.Plain ∧
      ∀ rest, (image <$> format.read).run (kind.tag :: rest) = body.run rest := by
  rcases tags with ⟨body, plain, rfl⟩
  refine ⟨image <$> body.read, plain.map image, ?_⟩
  intro rest
  rw [map_eq_pure_bind, map_eq_pure_bind]
  simp [tagged, Reader.expectTag, Reader.run_bind]

namespace Contents

/-- What stands behind the tag of a kind is read by a composed reader. -/
theorem exists_plain_of_kind (kind : ContentsKind) :
    ∃ body : Reader Contents, body.Plain ∧
      ∀ rest, read.run (kind.tag :: rest) = body.run rest := by
  simp only [run_read_tag]
  cases kind with
  | revelation => exact Revelation.tagsPlain.exists_plain revelation
  | transaction => exact Transaction.tagsPlain.exists_plain transaction
  | origination => exact Origination.tagsPlain.exists_plain origination
  | delegation => exact Delegation.tagsPlain.exists_plain delegation
  | endorsement => exact Endorsement.tagsPlain.exists_plain endorsement

theorem run_read_nil : read.run [] = ⟨.error .outOfBounds, []⟩ := rfl

theorem run_read_of_ofTag? {tag : UInt8} (unselected : ContentsKind.ofTag? tag = none)
    (rest : Bytes) :
    read.run (tag :: rest) = ⟨.error (.invalidVariant .contents tag), tag :: rest⟩ := by
  rw [read, Reader.run_bind, Reader.run_peek]
  simp [unselected]

/-- Looking at the tag does not take it, but there is no entry without one. -/
theorem read_decisive : read.Decisive := by
  intro input more
  cases input with
  | nil => exact .inl ⟨_, .outOfBounds, congrArg Read.outcome run_read_nil⟩
  | cons tag rest =>
      cases selected : ContentsKind.ofTag? tag with
      | none =>
          right
          rw [List.cons_append, run_read_of_ofTag? selected, run_read_of_ofTag? selected]
          rfl
      | some kind =>
          obtain rfl := ContentsKind.tag_of_ofTag? selected
          rcases exists_plain_of_kind kind with ⟨body, plain, behind⟩
          rw [List.cons_append, behind, behind]
          exact plain.incremental.decisive rest more

theorem incremental_read : read.Incremental :=
  ⟨read_decisive, _, read_recognizes⟩

/-- An entry cannot be read for want of input, or because the input is malformed. -/
theorem error_of_read {input : Bytes} {error : WireError}
    (failed : (read.run input).outcome = .error error) : error.Shortage ∨ error.Malformed := by
  cases input with
  | nil =>
      rw [run_read_nil] at failed
      cases failed
      exact .inl .outOfBounds
  | cons tag rest =>
      cases selected : ContentsKind.ofTag? tag with
      | none =>
          rw [run_read_of_ofTag? selected] at failed
          cases failed
          exact .inr (.of_unselected (by decide) selected)
      | some kind =>
          obtain rfl := ContentsKind.tag_of_ofTag? selected
          rcases exists_plain_of_kind kind with ⟨body, plain, behind⟩
          rw [behind] at failed
          exact plain.error_of_run failed

end Contents

end OperationForge
