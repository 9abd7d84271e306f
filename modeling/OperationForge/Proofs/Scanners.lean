import OperationForge.Proofs.Incremental

/-!
# Three ways to find the end of a number

A number ends with the first byte that calls for no other one.  It can be read where it
is the whole of a byte string, the front of one, or the next value of a reader's input.
These look for the end in ways of their own, and fail for causes of their own, but find
the same end and the same number, with a sign or without.
-/

namespace OperationForge.Zarith

/-- The first number of the stream ends with the byte at the index, which is the first
that calls for no other one. -/
def EndsAt (stream : Bytes) (index : Nat) : Prop :=
  ∃ inside : index < stream.length, stream[index] < 0x80 ∧
    ∀ earlier (before : earlier < index), 0x80 ≤ stream[earlier]

/-- The stream breaks off within its first number. -/
def Unending (stream : Bytes) : Prop := ∀ byte ∈ stream, 0x80 ≤ byte

/-! ## The end of a number -/

@[simp] theorem continues_iff (byte : UInt8) : continues byte = true ↔ 0x80 ≤ byte :=
  decide_eq_true_iff

@[simp] theorem not_continues_iff (byte : UInt8) : (!continues byte) = true ↔ byte < 0x80 := by
  rw [Bool.not_eq_true', ← Bool.not_eq_true, continues_iff, UInt8.not_le]

theorem endsAt_iff_findIdx? (stream : Bytes) (index : Nat) :
    EndsAt stream index ↔ stream.findIdx? (fun byte => !continues byte) = some index := by
  rw [List.findIdx?_eq_some_iff_getElem]
  simp only [EndsAt, not_continues_iff, UInt8.not_lt]

theorem unending_iff_findIdx? (stream : Bytes) :
    Unending stream ↔ stream.findIdx? (fun byte => !continues byte) = none := by
  rw [List.findIdx?_eq_none_iff]
  simp only [Unending, Bool.not_eq_false', continues_iff]

/-- A stream breaks off within its first number, or that number ends somewhere. -/
theorem unending_or_endsAt (stream : Bytes) : Unending stream ∨ ∃ index, EndsAt stream index := by
  cases found : stream.findIdx? (fun byte => !continues byte) with
  | none => exact .inl ((unending_iff_findIdx? stream).mpr found)
  | some index => exact .inr ⟨index, (endsAt_iff_findIdx? stream index).mpr found⟩

/-- The bytes of a number are those that call for more, and one that does not. -/
theorem number_concat_iff (front : Bytes) (last : UInt8) :
    Number (front ++ [last]) ↔ last < 0x80 ∧ Unending front := by
  have ends : isNumber (front ++ [last]) = (!continues last && front.all continues) := by
    simp [isNumber]
  rw [Number.iff_isNumber, ends, Bool.and_eq_true, not_continues_iff, List.all_eq_true]
  simp only [Unending, continues_iff]

theorem EndsAt.length_take {stream : Bytes} {index : Nat} (ends : EndsAt stream index) :
    (stream.take (index + 1)).length = index + 1 :=
  List.length_take_of_le ends.1

theorem EndsAt.number {stream : Bytes} {index : Nat} (ends : EndsAt stream index) :
    Number (stream.take (index + 1)) := by
  rcases ends with ⟨inside, last, before⟩
  rw [List.take_succ_eq_append_getElem inside, number_concat_iff]
  refine ⟨last, ?_⟩
  intro byte member
  rcases List.mem_take_iff_getElem.mp member with ⟨earlier, within, rfl⟩
  exact before earlier (Nat.lt_of_lt_of_le within (Nat.min_le_left ..))

/-- A byte string is a number when its last byte is where the first number ends. -/
theorem number_iff_endsAt (stream : Bytes) :
    Number stream ↔ ∃ index, EndsAt stream index ∧ index + 1 = stream.length := by
  constructor
  · intro number
    obtain ⟨front, last, rfl⟩ := (List.eq_nil_or_concat' stream).resolve_left number.ne_nil
    rw [number_concat_iff] at number
    refine ⟨front.length, ⟨by simp, by simpa using number.1, ?_⟩, by simp⟩
    intro earlier before
    rw [List.getElem_append_left before]
    exact number.2 _ (List.getElem_mem before)
  · intro whole
    rcases whole with ⟨index, ends, length⟩
    have number := ends.number
    rwa [length, List.take_length] at number

/-! ## What the three do -/

theorem EndsAt.numberLength_eq {stream : Bytes} {index : Nat} (ends : EndsAt stream index) :
    numberLength stream = .ok (index + 1) := by
  rw [numberLength, (endsAt_iff_findIdx? stream index).mp ends]

theorem Unending.numberLength_eq {stream : Bytes} (unending : Unending stream) :
    numberLength stream = .error .unterminatedZarith := by
  rw [numberLength, (unending_iff_findIdx? stream).mp unending]

theorem Unending.scan_eq {stream : Bytes} (unending : Unending stream) :
    scan stream = ⟨.error .unterminatedZarith, []⟩ := by
  induction stream with
  | nil => rfl
  | cons byte rest ih =>
      rcases List.forall_mem_cons.mp unending with ⟨goesOn, others⟩
      rw [scan_of_continues ((continues_iff byte).mpr goesOn), ih others]
      rfl

section Streams

variable {stream : Bytes} {index : Nat}

theorem EndsAt.readNext_eq (ends : EndsAt stream index) :
    readNext stream = .ok (natOfGroups (stream.take (index + 1)), index + 1) := by
  rw [readNext, ends.numberLength_eq]
  rfl

theorem EndsAt.readNextSigned_eq (ends : EndsAt stream index) :
    readNextSigned stream = .ok (intOfGroups (stream.take (index + 1)), index + 1) := by
  rw [readNextSigned, ends.numberLength_eq]
  rfl

theorem Unending.readNext_eq (unending : Unending stream) :
    readNext stream = .error .unterminatedZarith := by
  rw [readNext, unending.numberLength_eq]
  rfl

theorem Unending.readNextSigned_eq (unending : Unending stream) :
    readNextSigned stream = .error .unterminatedZarith := by
  rw [readNextSigned, unending.numberLength_eq]
  rfl

theorem Number.decode_eq {groups : Bytes} (number : Number groups) :
    decodeUnsigned groups = .ok (natOfGroups groups) ∧
      decodeSigned groups = .ok (intOfGroups groups) := by
  rw [Number.iff_isNumber] at number
  rw [decodeUnsigned, decodeSigned, if_pos number, if_pos number]
  exact ⟨rfl, rfl⟩

theorem decode_of_not_number {groups : Bytes} (other : ¬Number groups) :
    decodeUnsigned groups = .error .malformedZarith ∧
      decodeSigned groups = .error .malformedZarith := by
  rw [Number.iff_isNumber] at other
  rw [decodeUnsigned, decodeSigned, if_neg other, if_neg other]
  exact ⟨rfl, rfl⟩

variable {α : Type} (meaning : Bytes → α)

theorem EndsAt.yields (ends : EndsAt stream index) :
    (meaning <$> readGroups).Yields stream (.ok (meaning (stream.take (index + 1))))
      (index + 1) := by
  rw [Reader.yields_iff]
  refine ⟨_, stream.drop (index + 1), (List.take_append_drop ..).symm, ends.length_take, ?_⟩
  conv_lhs => rw [← List.take_append_drop (index + 1) stream]
  exact (groups_recognizes meaning).run_append ⟨ends.number, rfl⟩ _

theorem Unending.yields (unending : Unending stream) :
    (meaning <$> readGroups).Yields stream (.error .unterminatedZarith) stream.length := by
  rw [Reader.yields_iff]
  refine ⟨stream, [], (List.append_nil stream).symm, rfl, ?_⟩
  rw [map_eq_pure_bind]
  exact Reader.run_bind_of_error unending.scan_eq _

end Streams

/-! ## Writing -/

theorem encodeUnsigned_eq (number : Int) :
    encodeUnsigned number = natOfInt number >>= natural.encode := by
  cases number with
  | ofNat number => rfl
  | negSucc number => rfl

theorem encodeUnsigned_eq_error_iff (number : Int) :
    encodeUnsigned number = .error .negativeNatural ↔ number < 0 := by
  cases number with
  | ofNat number => simp [encodeUnsigned]
  | negSucc number => simp [encodeUnsigned, Int.negSucc_lt_zero]

theorem exists_encodeUnsigned {number : Int} (nonnegative : 0 ≤ number) :
    ∃ bytes, encodeUnsigned number = .ok bytes := by
  cases number with
  | ofNat number => exact ⟨encodeNat number, rfl⟩
  | negSucc number => exact absurd nonnegative (Int.not_le.mpr (Int.negSucc_lt_zero number))

/-! ## Agreement -/

/-- On every stream all ways of reading agree.  A stream that breaks off within its first
number is refused by those that look for an end, and taken whole by the readers.  In any
other stream the end is the same for all, and so are the natural number and the integer
in front of it.  A byte string is refused as a number unless its last byte is that end.
Writing has two ways, which agree as well. -/
theorem scanners_agree :
    (∀ stream, (∀ byte ∈ stream, 0x80 ≤ byte) →
      readNext stream = .error .unterminatedZarith ∧
      readNextSigned stream = .error .unterminatedZarith ∧
      natural.read.Yields stream (.error .unterminatedZarith) stream.length ∧
      integer.read.Yields stream (.error .unterminatedZarith) stream.length) ∧
    (∀ stream, (∃ byte ∈ stream, byte < 0x80) →
      ∃ index unsigned signed, EndsAt stream index ∧
        decodeUnsigned (stream.take (index + 1)) = .ok unsigned ∧
        decodeSigned (stream.take (index + 1)) = .ok signed ∧
        readNext stream = .ok (unsigned, index + 1) ∧
        readNextSigned stream = .ok (signed, index + 1) ∧
        natural.read.Yields stream (.ok unsigned) (index + 1) ∧
        integer.read.Yields stream (.ok signed) (index + 1)) ∧
    (∀ stream index, EndsAt stream index → index + 1 = stream.length →
      (∃ unsigned, decodeUnsigned stream = .ok unsigned) ∧
      ∃ signed, decodeSigned stream = .ok signed) ∧
    (∀ stream, (∀ index, EndsAt stream index → index + 1 ≠ stream.length) →
      decodeUnsigned stream = .error .malformedZarith ∧
      decodeSigned stream = .error .malformedZarith) ∧
    ∀ number,
      encodeUnsigned number = (natOfInt number >>= natural.encode) ∧
      (encodeUnsigned number = .error .negativeNatural ↔ number < 0) ∧
      (0 ≤ number → ∃ bytes, encodeUnsigned number = .ok bytes) ∧
      integer.encode number = .ok (encodeSigned number) := by
  refine ⟨?_, ?_, ?_, ?_, ?_⟩
  · intro stream unending
    have endless : Unending stream := unending
    exact ⟨endless.readNext_eq, endless.readNextSigned_eq, endless.yields natOfGroups,
      endless.yields intOfGroups⟩
  · intro stream terminated
    rcases unending_or_endsAt stream with unending | ⟨index, ends⟩
    · rcases terminated with ⟨byte, member, last⟩
      exact absurd (unending byte member) (UInt8.not_le.mpr last)
    · rcases ends.number.decode_eq with ⟨unsigned, signed⟩
      exact ⟨index, _, _, ends, unsigned, signed, ends.readNext_eq, ends.readNextSigned_eq,
        ends.yields natOfGroups, ends.yields intOfGroups⟩
  · intro stream index ends whole
    rcases ((number_iff_endsAt stream).mpr ⟨index, ends, whole⟩).decode_eq with ⟨unsigned, signed⟩
    exact ⟨⟨_, unsigned⟩, _, signed⟩
  · intro stream elsewhere
    apply decode_of_not_number
    intro number
    rcases (number_iff_endsAt stream).mp number with ⟨index, ends, whole⟩
    exact elsewhere index ends whole
  · intro number
    exact ⟨encodeUnsigned_eq number, encodeUnsigned_eq_error_iff number, exists_encodeUnsigned, rfl⟩

/-- A padded number on its own, in front of a byte that is a number of its own, and
broken off. -/
theorem paddedStream_scanners_agree :
    let padded : Bytes := [0xc1, 0x82, 0x80, 0x00]
    (∃ byte ∈ padded ++ [0x05], byte < 0x80) ∧
      (∃ index unsigned signed, EndsAt (padded ++ [0x05]) index ∧
        readNext (padded ++ [0x05]) = .ok (unsigned, index + 1) ∧
        readNextSigned (padded ++ [0x05]) = .ok (signed, index + 1)) ∧
      natural.read.Yields [0xc1, 0x82] (.error .unterminatedZarith) 2 ∧
      (EndsAt padded 3 ∧ ∃ signed, decodeSigned padded = .ok signed) ∧
      decodeSigned (padded ++ [0x05]) = .error .malformedZarith ∧
      ∃ bytes, encodeUnsigned 321 = .ok bytes := by
  intro padded
  rcases scanners_agree with ⟨endless, terminated, whole, elsewhere, written⟩
  have last : ∃ byte ∈ padded ++ [0x05], byte < 0x80 := ⟨0x00, by decide, by decide⟩
  rcases terminated _ last with ⟨index, unsigned, signed, ends, -, -, next, nextSigned, -⟩
  have broken := endless [0xc1, 0x82] (by simp)
  have third : EndsAt padded 3 := (endsAt_iff_findIdx? _ _).mpr rfl
  have refused : decodeSigned (padded ++ [0x05]) = .error .malformedZarith := by
    refine (elsewhere _ ?_).2
    intro found ends
    cases (endsAt_iff_findIdx? _ _).mp ends
    decide
  exact ⟨last, ⟨index, unsigned, signed, ends, next, nextSigned⟩, broken.2.2.1,
    ⟨third, (whole padded 3 third rfl).2⟩, refused, (written 321).2.2.1 (by decide)⟩

end OperationForge.Zarith
