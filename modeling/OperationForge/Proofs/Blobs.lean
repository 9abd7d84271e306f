import OperationForge.Proofs.Canonical
import OperationForge.Proofs.Incremental

/-!
# Blobs under a bound

The bound of a blob decides which byte strings it can hold, and nothing else about it.  No
longer ones come in, from a caller or from the wire, so that a length always fits its four
bytes and what is written is read back.  A length on the wire is compared with the bound
first and with what is left of the input second, and nothing behind it is taken unless it
passes both.  A bound above the hard limit is that limit.
-/

namespace OperationForge

theorem Format.run_uint32_of_length_le {input : Bytes} (enough : 4 ≤ input.length) :
    uint32.read.run input =
      ⟨.ok (UInt32.ofNat (BigEndian.decode (input.take 4))), input.drop 4⟩ :=
  Reader.run_map_take_of_length_le _ enough

theorem Format.run_uint32_of_length_lt {input : Bytes} (short : input.length < 4) :
    uint32.read.run input = ⟨.error .outOfBounds, input⟩ :=
  Reader.run_map_take_of_length_lt _ short

theorem BigEndian.toNat_ofNat_decode {digits : Bytes} (width : digits.length = 4) :
    (UInt32.ofNat (decode digits)).toNat = decode digits := by
  have below := decode_lt digits
  rw [width] at below
  exact UInt32.toNat_ofNat_of_lt' below

namespace Blob

variable {bound : Nat} {bytes input : Bytes} {length : Nat}

/-! ## Bytes that are given -/

theorem ofBytes_eq_ok_iff {blob : Blob bound} :
    ofBytes bytes = .ok blob ↔ bytes.length ≤ capacity bound ∧ blob.bytes = bytes := by
  constructor
  · intro made
    rw [ofBytes] at made
    split at made
    · next short =>
        cases made
        exact ⟨short, rfl⟩
    · cases made
  · rintro ⟨-, rfl⟩
    exact ofBytes_bytes blob

theorem ofBytes_eq_error_iff {error : WireError} :
    (ofBytes bytes : Except WireError (Blob bound)) = .error error ↔
      capacity bound < bytes.length ∧ error = .overflowContainer bytes.length := by
  rw [ofBytes]
  split
  · next short =>
      simp [Nat.not_lt.mpr short]
  · next long =>
      simp [Nat.lt_of_not_le long, eq_comm]

/-! ## Bytes that are read -/

/-- What comes of reading at most `most` bytes behind their length, and how many bytes of the
input this takes. -/
def answer (most : Nat) (input : Bytes) : Except WireError Bytes × Nat :=
  let length := BigEndian.decode (input.take 4)
  let behind := input.drop 4
  if input.length < 4 then (.error .outOfBounds, 0)
  else if most < length then (.error (.overflowContainer length), 4)
  else if behind.length < length then (.error .outOfBounds, 4)
  else (.ok (behind.take length), 4 + length)

theorem run_readBody_of_lt (long : capacity bound < length) (input : Bytes) :
    (readBody length : Reader (Blob bound)).run input =
      ⟨.error (.overflowContainer length), input⟩ := by
  rw [readBody, dif_neg (Nat.not_le.mpr long), Reader.run_fail]

theorem run_readBody_of_length_lt (fits : length ≤ capacity bound) (short : input.length < length) :
    (readBody length : Reader (Blob bound)).run input = ⟨.error .outOfBounds, input⟩ := by
  rw [readBody, dif_pos fits, Reader.run_map_take_of_length_lt _ short]

theorem exists_run_readBody (fits : length ≤ capacity bound) (enough : length ≤ input.length) :
    ∃ blob : Blob bound, (readBody length).run input = ⟨.ok blob, input.drop length⟩ ∧
      blob.bytes = input.take length := by
  rw [readBody, dif_pos fits, Reader.run_map_take_of_length_le _ enough]
  exact ⟨_, rfl, rfl⟩

theorem run_format_of_length_lt (short : input.length < 4) :
    (format bound).read.run input = ⟨.error .outOfBounds, input⟩ :=
  Reader.run_bind_of_error (Format.run_uint32_of_length_lt short) _

theorem run_format_of_length_le (enough : 4 ≤ input.length) :
    (format bound).read.run input =
      (readBody (BigEndian.decode (input.take 4)) : Reader (Blob bound)).run (input.drop 4) := by
  have width : (input.take 4).length = 4 := List.length_take_of_le enough
  have run := Reader.run_bind_of_ok (Format.run_uint32_of_length_le enough)
    fun length => (readBody length.toNat : Reader (Blob bound))
  rwa [BigEndian.toNat_ofNat_decode width] at run

/-- The bound shows in the answer as the capacity and in no other way. -/
theorem run_format (bound : Nat) (input : Bytes) :
    ((format bound).read.run input).outcome.map Blob.bytes = (answer (capacity bound) input).1 ∧
      ((format bound).read.run input).rest = input.drop (answer (capacity bound) input).2 := by
  simp only [answer]
  -- The cases are those of `answer`, in its order.
  by_cases short : input.length < 4
  · rw [if_pos short, run_format_of_length_lt short]
    exact ⟨rfl, rfl⟩
  · rw [if_neg short, run_format_of_length_le (Nat.le_of_not_lt short)]
    by_cases long : capacity bound < BigEndian.decode (input.take 4)
    · rw [if_pos long, run_readBody_of_lt long]
      exact ⟨rfl, rfl⟩
    · have fits := Nat.le_of_not_lt long
      rw [if_neg long]
      by_cases cut : (input.drop 4).length < BigEndian.decode (input.take 4)
      · rw [if_pos cut, run_readBody_of_length_lt fits cut]
        exact ⟨rfl, rfl⟩
      · obtain ⟨blob, run, body⟩ := exists_run_readBody fits (Nat.le_of_not_lt cut)
        rw [if_neg cut, run]
        exact ⟨congrArg Except.ok body, List.drop_drop ..⟩

theorem length_le_of_answer {most : Nat} (answered : (answer most input).1 = .ok bytes) :
    bytes.length ≤ most := by
  simp only [answer] at answered
  split at answered
  · cases answered
  · split at answered
    · cases answered
    · next fits =>
        split at answered
        · cases answered
        · cases answered
          exact Nat.le_trans (List.length_take_le ..) (Nat.le_of_not_lt fits)

theorem answer_le_length (most : Nat) (input : Bytes) : (answer most input).2 ≤ input.length := by
  simp only [answer]
  split
  · exact Nat.zero_le _
  · next long =>
      have tag := Nat.le_of_not_lt long
      split
      · exact tag
      · split
        · exact tag
        · next enough =>
            rw [List.length_drop] at enough
            omega

theorem exists_read_eq (bound : Nat) (cursor : Cursor) :
    ∃ outcome after, cursor.read (format bound).read = (outcome, after) ∧
      outcome.map Blob.bytes = (answer (capacity bound) cursor.rest).1 ∧
      after.buffer = cursor.buffer ∧
      after.position = cursor.position + (answer (capacity bound) cursor.rest).2 := by
  obtain ⟨answered, rest⟩ := run_format bound cursor.rest
  cases run : (format bound).read.run cursor.rest with
  | mk outcome left =>
      rw [run] at answered rest
      obtain ⟨after, read, buffer, behind⟩ := cursor.exists_read run
      refine ⟨outcome, after, read, answered, buffer, ?_⟩
      -- What is left tells the position, since the buffer is the same.
      have split := (List.take_append_drop (answer (capacity bound) cursor.rest).2 cursor.rest).symm
      rw [← rest, ← behind] at split
      rw [Cursor.position_of_rest buffer split, List.length_take_of_le (answer_le_length _ _)]

/-! ## Bytes that are held -/

/-- The ways in which bytes come to be held under a bound. -/
inductive Obtained (bound : Nat) : Bytes → Prop where
  | initially : Obtained bound (default : Blob bound).bytes
  | given {bytes : Bytes} {blob : Blob bound} :
      ofBytes bytes = .ok blob → Obtained bound blob.bytes
  | received {cursor after : Cursor} {blob : Blob bound} :
      cursor.read (format bound).read = (.ok blob, after) → Obtained bound blob.bytes

theorem obtained_iff : Obtained bound bytes ↔ bytes.length ≤ capacity bound := by
  constructor
  · intro obtained
    cases obtained with
    | initially => exact Nat.zero_le _
    | given made =>
        obtain ⟨short, rfl⟩ := ofBytes_eq_ok_iff.mp made
        exact short
    | @received cursor after blob read =>
        have outcome : ((format bound).read.run cursor.rest).outcome = .ok blob :=
          congrArg Prod.fst read
        have answered := (run_format bound cursor.rest).1
        rw [outcome] at answered
        exact length_le_of_answer answered.symm
  · intro short
    exact .given (ofBytes_eq_ok_iff.mpr ⟨short, rfl⟩ : ofBytes bytes = .ok ⟨bytes, short⟩)

theorem write_eq (blob : Blob bound) :
    (format bound).write blob = .wrote (BigEndian.encode 4 blob.bytes.length ++ blob.bytes) := by
  rw [(format_follows bound).write_eq blob trivial]
  simp [layout, Layout.shortest]

theorem encode_eq (blob : Blob bound) :
    (format bound).encode blob = .ok (BigEndian.encode 4 blob.bytes.length ++ blob.bytes) := by
  rw [Format.encode, write_eq, Output.toExcept_wrote]

/-- Blobs under the two bounds hold the same bytes, and nothing tells those that do apart. -/
structure Alike (bound other : Nat) : Prop where
  obtained_iff : ∀ bytes, Obtained bound bytes ↔ Obtained other bytes
  ofBytes_eq : ∀ bytes,
    (ofBytes bytes : Except WireError (Blob bound)).map Blob.bytes =
      (ofBytes bytes : Except WireError (Blob other)).map Blob.bytes
  read_eq : ∀ cursor : Cursor,
    Prod.map (Except.map Blob.bytes) id (cursor.read (format bound).read) =
      Prod.map (Except.map Blob.bytes) id (cursor.read (format other).read)
  write_eq : ∀ (left : Blob bound) (right : Blob other), left.bytes = right.bytes →
    (format bound).write left = (format other).write right

theorem map_ofBytes (bound : Nat) (bytes : Bytes) :
    (ofBytes bytes : Except WireError (Blob bound)).map Blob.bytes =
      if bytes.length ≤ capacity bound then .ok bytes
      else .error (.overflowContainer bytes.length) := by
  rw [ofBytes]
  split <;> rfl

theorem alike_of_capacity_eq {other : Nat} (same : capacity bound = capacity other) :
    Alike bound other where
  obtained_iff bytes := by
    rw [Blob.obtained_iff, Blob.obtained_iff, same]
  ofBytes_eq bytes := by
    rw [map_ofBytes, map_ofBytes, same]
  read_eq cursor := by
    have left := run_format bound cursor.rest
    have right := run_format other cursor.rest
    rw [same] at left
    simp only [Cursor.read, Prod.map, id, left, right]
  write_eq left right sameBytes := by
    rw [Blob.write_eq, Blob.write_eq, sameBytes]

/-- A blob holds as many bytes as its bound allows, and never more than the hard limit,
wherever they come from.  So its length fits four bytes, and it can be written and is read
back.  Bytes that are too long are refused for their length.  In reading, a length that is cut
short takes nothing.  A whole one is compared with the bound before it is compared with what
stands behind it, and if it is refused, it alone has been taken.  Bounds from the hard limit on
make no difference. -/
theorem bound_decides (bound : Nat) :
    capacity bound = min bound (2 ^ 30 - 1) ∧
    (∀ bytes, Obtained bound bytes ↔ bytes.length ≤ capacity bound) ∧
    (∀ blob : Blob bound,
      (UInt32.ofNat blob.bytes.length).toNat = blob.bytes.length ∧
      ∃ bytes, (format bound).encode blob = .ok bytes ∧ (format bound).decode bytes = .ok blob ∧
        bytes = BigEndian.encode 4 blob.bytes.length ++ blob.bytes) ∧
    (∀ bytes,
      (∀ blob : Blob bound, ofBytes bytes = .ok blob ↔
        bytes.length ≤ capacity bound ∧ blob.bytes = bytes) ∧
      ∀ error, (ofBytes bytes : Except WireError (Blob bound)) = .error error ↔
        capacity bound < bytes.length ∧ error = .overflowContainer bytes.length) ∧
    (∀ cursor : Cursor, ∃ outcome after,
      cursor.read (format bound).read = (outcome, after) ∧
      outcome.map Blob.bytes = (answer (capacity bound) cursor.rest).1 ∧
      after.buffer = cursor.buffer ∧
      after.position = cursor.position + (answer (capacity bound) cursor.rest).2) ∧
    ∀ other, 2 ^ 30 - 1 ≤ bound → 2 ^ 30 - 1 ≤ other → Alike bound other := by
  refine ⟨rfl, fun _ => obtained_iff, ?written, fun _ => ⟨fun _ => ofBytes_eq_ok_iff, fun _ =>
    ofBytes_eq_error_iff⟩, exists_read_eq bound, ?alike⟩
  case written =>
    intro blob
    exact ⟨blob.toNat_length, _, encode_eq blob,
      (format_follows bound).decode_of_encode (encode_eq blob), rfl⟩
  case alike =>
    intro other high otherHigh
    exact alike_of_capacity_eq ((Nat.min_eq_right high).trans (Nat.min_eq_right otherHigh).symm)

/-- What blobs of at most three bytes hold, what is read as one, and two bounds that are one. -/
theorem threeBytes_bound_decides :
    Obtained 3 [1, 2, 3] ∧ ¬Obtained 3 [1, 2, 3, 4] ∧
    (ofBytes [1, 2, 3, 4] : Except WireError (Blob 3)) = .error (.overflowContainer 4) ∧
    (∀ row ∈ [(([0, 0] : Bytes), (.error .outOfBounds : Except WireError Bytes), 0),
        ([0, 0, 0, 4, 1], .error (.overflowContainer 4), 4),
        ([0, 0, 0, 2, 7], .error .outOfBounds, 4), ([0, 0, 0, 2, 7, 8, 9], .ok [7, 8], 6)],
      ∃ outcome after, (Cursor.start row.1).read (format 3).read = (outcome, after) ∧
        outcome.map Blob.bytes = row.2.1 ∧ after.position = row.2.2) ∧
    Alike (2 ^ 30) (2 ^ 32 - 1) := by
  obtain ⟨-, obtained, -, given, reads, -⟩ := bound_decides 3
  obtain ⟨-, -, -, -, -, alike⟩ := bound_decides (2 ^ 30)
  refine ⟨(obtained _).mpr (by decide), (obtained _).not.mpr (by decide),
    ((given _).2 _).mpr ⟨by decide, rfl⟩, ?_, alike _ (by decide) (by decide)⟩
  intro row listed
  have expected : answer 3 row.1 = row.2 := by
    simp only [List.mem_cons, List.not_mem_nil, or_false] at listed
    rcases listed with rfl | rfl | rfl | rfl <;> rfl
  obtain ⟨outcome, after, read, answered, -, position⟩ := reads (Cursor.start row.1)
  rw [← expected]
  refine ⟨outcome, after, read, answered, ?_⟩
  rw [position, Cursor.position_start, Nat.zero_add]
  rfl

end Blob

end OperationForge
