import OperationForge.Proofs.Incremental
import OperationForge.Proofs.RoundTrips

/-!
# Values one after another

Values of any wire types, in any mixture, can share a buffer: nothing has to stand between
them, and what stands in front of them or behind them is left alone.  A cursor that is
told the types in order reads the values back, each from the bytes that it is encoded as.
-/

namespace OperationForge

namespace WireType

/-- A value together with its wire type. -/
structure Item where
  type : WireType
  value : type.Value

namespace Item

def Writable (item : Item) : Prop := item.type.Writable item.value

/-- What writing the value adds to a buffer. -/
def write (item : Item) : Output := item.type.format.write item.value

/-- The bytes of the value. -/
def encode (item : Item) : Except WireError Bytes := item.type.format.encode item.value

/-- Writes the values to the end of a buffer, up to the first that cannot be written. -/
def writeAll (buffer : Bytes) : List Item → Except WireError Unit × Bytes
  | [] => (.ok (), buffer)
  | item :: items =>
      let next := item.write.appendTo buffer
      match item.write.error? with
      | none => writeAll next items
      | some error => (.error error, next)

/-- The cursor reads the values one after another, and moves on by the given count of
bytes for each. -/
inductive ReadsAll : Cursor → List Item → List Nat → Cursor → Prop where
  | nil (cursor : Cursor) : ReadsAll cursor [] [] cursor
  | cons {before between after : Cursor} {item : Item} {items : List Item} {count : Nat}
      {counts : List Nat} :
      before.read item.type.format.read = (.ok item.value, between) →
      between.position = before.position + count →
      ReadsAll between items counts after →
      ReadsAll before (item :: items) (count :: counts) after

/-! ## One value -/

theorem writeAll_cons {item : Item} {bytes : Bytes} (encoded : item.encode = .ok bytes)
    (buffer : Bytes) (items : List Item) :
    writeAll buffer (item :: items) = writeAll (buffer ++ bytes) items := by
  have written : item.write = .wrote bytes := (Output.toExcept_eq_ok_iff _ _).mp encoded
  rw [writeAll, written]
  rfl

/-- A cursor in front of the bytes of a value reads it and stops behind them. -/
theorem exists_read {item : Item} {bytes : Bytes}
    (decoded : item.type.format.decode bytes = .ok item.value) {before : Cursor} {behind : Bytes}
    (split : before.rest = bytes ++ behind) :
    ∃ after, before.read item.type.format.read = (.ok item.value, after) ∧
      after.position = before.position + bytes.length ∧
      after.buffer = before.buffer ∧ after.rest = behind := by
  have alone := (Reader.exactly_eq_ok_iff _ _ _).mp decoded
  rw [← List.append_nil bytes] at alone
  have answer := item.type.incremental.run_append alone behind
  rw [← split] at answer
  rcases before.exists_read answer with ⟨after, reads, same, rfl⟩
  exact ⟨after, reads, Cursor.position_of_rest same split, same, rfl⟩

/-! ## Any number of values -/

/-- Every piece is what the item is encoded as, and is decoded as its value. -/
abbrev AllRoundTrip (items : List Item) (pieces : List Bytes) : Prop :=
  List.Forall₂ (fun item piece =>
    item.encode = .ok piece ∧ item.type.format.decode piece = .ok item.value) items pieces

theorem exists_allRoundTrip {items : List Item} (writable : ∀ item ∈ items, item.Writable) :
    ∃ pieces, AllRoundTrip items pieces := by
  induction items with
  | nil => exact ⟨[], .nil⟩
  | cons item items ih =>
      rcases List.forall_mem_cons.mp writable with ⟨canWrite, others⟩
      rcases (item.type.roundTrips_iff item.value).mpr canWrite with ⟨piece, encoded, decoded⟩
      rcases ih others with ⟨pieces, roundTrip⟩
      exact ⟨piece :: pieces, .cons ⟨encoded, decoded⟩ roundTrip⟩

theorem AllRoundTrip.writeAll_eq {items : List Item} {pieces : List Bytes}
    (roundTrip : AllRoundTrip items pieces) (buffer : Bytes) :
    writeAll buffer items = (.ok (), buffer ++ pieces.flatten) := by
  induction roundTrip generalizing buffer with
  | nil => simp [writeAll]
  | cons first _ ih =>
      rw [writeAll_cons first.1, ih, List.flatten_cons, List.append_assoc]

theorem AllRoundTrip.readsAll {items : List Item} {pieces : List Bytes}
    (roundTrip : AllRoundTrip items pieces) {before : Cursor} {trailer : Bytes}
    (split : before.rest = pieces.flatten ++ trailer) :
    ∃ after, ReadsAll before items (pieces.map List.length) after ∧
      after.buffer = before.buffer ∧ after.rest = trailer := by
  induction roundTrip generalizing before with
  | nil => exact ⟨before, .nil before, rfl, split⟩
  | cons first _ ih =>
      rw [List.flatten_cons, List.append_assoc] at split
      rcases exists_read first.2 split with ⟨between, reads, moved, same, left⟩
      rcases ih left with ⟨after, others, unchanged, rest⟩
      exact ⟨after, .cons reads moved others, unchanged.trans same, rest⟩

/-- Values that can be written are encoded one after another behind what a buffer holds,
and one cursor over these encodings and a trailer reads them back in order, moving on by
the length of each, up to the trailer. -/
theorem readsAll_writeAll (items : List Item) (writable : ∀ item ∈ items, item.Writable)
    (buffer trailer : Bytes) :
    ∃ pieces, List.Forall₂ (fun item piece => item.encode = .ok piece) items pieces ∧
      writeAll buffer items = (.ok (), buffer ++ pieces.flatten) ∧
      ∃ after, ReadsAll (.start (pieces.flatten ++ trailer)) items (pieces.map List.length) after ∧
        after.buffer = pieces.flatten ++ trailer ∧ after.rest = trailer := by
  rcases exists_allRoundTrip writable with ⟨pieces, roundTrip⟩
  have encoded := List.Forall₂.imp (fun _ _ both => And.left both) roundTrip
  exact ⟨pieces, encoded, roundTrip.writeAll_eq buffer, roundTrip.readsAll rfl⟩

/-- An absent flag inside an option, a negative integer, an empty block and a call of a
named entrypoint. -/
def mixture : List Item :=
  [⟨option (option bool), some none⟩, ⟨integer, (-64 : Int)⟩, ⟨block 0, ⟨[], rfl⟩⟩,
    ⟨parameters, ⟨.named "é", ⟨[0x0b], by decide⟩⟩⟩]

theorem mixture_writable : ∀ item ∈ mixture, item.Writable := by
  have call : Parameters.Writable ⟨.named "é", ⟨[0x0b], by decide⟩⟩ := by decide +kernel
  have flag : ∀ flag? ∈ some (none : Option Bool), ∀ flag ∈ flag?, True := fun _ _ _ _ => trivial
  refine List.forall_mem_cons.mpr ⟨flag, ?_⟩
  refine List.forall_mem_cons.mpr ⟨trivial, ?_⟩
  refine List.forall_mem_cons.mpr ⟨trivial, ?_⟩
  exact List.forall_mem_singleton.mpr call

theorem mixture_readsAll_writeAll :
    (∀ item ∈ mixture, item.Writable) ∧
      ∃ pieces, List.Forall₂ (fun item piece => item.encode = .ok piece) mixture pieces ∧
        writeAll [0x55] mixture = (.ok (), 0x55 :: pieces.flatten) ∧
        ∃ after, ReadsAll (.start (pieces.flatten ++ [0x66])) mixture
          (pieces.map List.length) after ∧ after.rest = [0x66] := by
  rcases readsAll_writeAll mixture mixture_writable [0x55] [0x66] with
    ⟨pieces, encoded, written, after, reads, -, rest⟩
  exact ⟨mixture_writable, pieces, encoded, written, after, reads, rest⟩

end Item

end WireType

end OperationForge
