import OperationForge.Proofs.Incremental

/-!
# Buffers read by position

A cursor holds the bytes that are left, and so it can never pass the end of its buffer.  A
bookmark holds a buffer and a number, and nothing keeps the number within the buffer.  Here
readers work on bookmarks, and all of them move on in one way (`Bookmark.take?`), which comes
to nothing where a position would lie outside of the buffer.

`Reader.Moves` tells what a reader does at a bookmark, and which pieces of the buffer it
takes on the way, on failure too.  Of the buffer it sees these pieces, the next byte and how
many bytes are left.  What a reader does at a bookmark, it does with the bytes that are left
as well (`Moves.sound`).  A reader that gets by with this and never gets stuck `Proceeds`.
-/

namespace OperationForge

/-- The byte of a block of one. -/
def FixedBytes.single (block : FixedBytes 1) : UInt8 :=
  block.toList.get ⟨0, by simp⟩

/-- A buffer, and how many of its bytes have been read. -/
@[ext] structure Bookmark where
  buffer : Bytes
  position : Nat

namespace Bookmark

/-- The bytes between two positions, which have to be in order and within the buffer. -/
def slice? (mark : Bookmark) (first last : Nat) : Option Bytes :=
  if first ≤ last ∧ last ≤ mark.buffer.length then
    some ((mark.buffer.take last).drop first)
  else
    none

/-- How many bytes are left, unless the position is beyond the end. -/
def left? (mark : Bookmark) : Option Nat :=
  if mark.position ≤ mark.buffer.length then
    some (mark.buffer.length - mark.position)
  else
    none

/-- The bytes that are left. -/
def rest? (mark : Bookmark) : Option Bytes :=
  mark.slice? mark.position mark.buffer.length

/-- Takes the next `size` bytes if as many are left, and moves on by `size`. -/
def take? (mark : Bookmark) (size : Nat) : Option (Except WireError Bytes × Bookmark) := do
  let left ← mark.left?
  if left < size then
    return (.error .outOfBounds, mark)
  let block ← mark.slice? mark.position (mark.position + size)
  return (.ok block, { mark with position := mark.position + size })

/-- The position is not beyond the end of the buffer. -/
def Inside (mark : Bookmark) : Prop := mark.position ≤ mark.buffer.length

/-- The buffer from the position on. -/
def unread (mark : Bookmark) : Bytes := mark.buffer.drop mark.position

section Inside

variable {mark : Bookmark} {size : Nat}

theorem length_unread (mark : Bookmark) :
    mark.unread.length = mark.buffer.length - mark.position :=
  List.length_drop

theorem Inside.left?_eq (inside : mark.Inside) : mark.left? = some mark.unread.length := by
  have within : mark.position ≤ mark.buffer.length := inside
  rw [left?, if_pos within, length_unread]

theorem Inside.rest?_eq (inside : mark.Inside) : mark.rest? = some mark.unread := by
  rw [rest?, slice?, if_pos ⟨inside, Nat.le_refl _⟩, List.take_length, unread]

theorem Inside.take?_of_le (inside : mark.Inside) (enough : size ≤ mark.unread.length) :
    mark.take? size =
      some (.ok (mark.unread.take size), { mark with position := mark.position + size }) := by
  have within : mark.position + size ≤ mark.buffer.length := by
    rw [length_unread] at enough
    exact (Nat.le_sub_iff_add_le' inside).mp enough
  have block : mark.slice? mark.position (mark.position + size) = some (mark.unread.take size) := by
    rw [slice?, if_pos ⟨Nat.le_add_right _ _, within⟩, unread, List.drop_take,
      Nat.add_sub_cancel_left]
  simp [take?, inside.left?_eq, Nat.not_lt.mpr enough, block]

theorem Inside.take?_of_lt (inside : mark.Inside) (short : mark.unread.length < size) :
    mark.take? size = some (.error .outOfBounds, mark) := by
  simp [take?, inside.left?_eq, short]

end Inside

/-- The bookmark `after` lies in the same buffer, behind the bytes `used`. -/
structure Advances (before : Bookmark) (used : Bytes) (after : Bookmark) : Prop where
  buffer_eq : after.buffer = before.buffer
  inside : after.Inside
  position_eq : after.position = before.position + used.length
  unread_eq : before.unread = used ++ after.unread

namespace Advances

variable {before middle after : Bookmark} {used more : Bytes}

theorem refl (inside : before.Inside) : before.Advances [] before where
  buffer_eq := rfl
  inside := inside
  position_eq := rfl
  unread_eq := rfl

theorem trans (first : before.Advances used middle) (second : middle.Advances more after) :
    before.Advances (used ++ more) after where
  buffer_eq := second.buffer_eq.trans first.buffer_eq
  inside := second.inside
  position_eq := by
    rw [second.position_eq, first.position_eq, List.length_append, Nat.add_assoc]
  unread_eq := by rw [first.unread_eq, second.unread_eq, List.append_assoc]

theorem take {size : Nat} (inside : before.Inside) (enough : size ≤ before.unread.length) :
    before.Advances (before.unread.take size)
      { before with position := before.position + size } where
  buffer_eq := rfl
  inside := by
    rw [length_unread] at enough
    exact (Nat.le_sub_iff_add_le' inside).mp enough
  position_eq := by rw [List.length_take_of_le enough]
  unread_eq := by simp [unread, ← List.drop_drop]

/-- From the beginning of the buffer, the bytes that were used are all bytes up to the
position. -/
theorem eq_take {buffer : Bytes} (advances : Advances ⟨buffer, 0⟩ used after) :
    used = buffer.take after.position := by
  have whole : buffer = used ++ after.unread := advances.unread_eq
  rw [whole, advances.position_eq, Nat.zero_add, List.take_left]

end Advances

end Bookmark

namespace Reader

variable {α β : Type}

/-- How many bytes are left. -/
def left : Reader Nat where
  run input := ⟨.ok input.length, input⟩
  rest_suffix _ := List.suffix_rfl

/-- The same reader with other errors. -/
def mapError (rename : WireError → WireError) (reader : Reader α) : Reader α where
  run input := ⟨(reader.run input).outcome.mapError rename, (reader.run input).rest⟩
  rest_suffix := reader.rest_suffix

theorem run_mapError (rename : WireError → WireError) (reader : Reader α) (input : Bytes) :
    (mapError rename reader).run input =
      ⟨(reader.run input).outcome.mapError rename, (reader.run input).rest⟩ :=
  rfl

/-- What a reader does at the bookmark `before`: it takes the pieces one after the other,
comes to the outcome and leaves the bookmark at `after`. -/
inductive Moves : {α : Type} → Reader α →
    Bookmark → List Bytes → Except WireError α → Bookmark → Prop where
  | pure {α : Type} (value : α) (mark : Bookmark) :
      Moves (Pure.pure value) mark [] (.ok value) mark
  | fail {α : Type} (error : WireError) (mark : Bookmark) :
      Moves (fail error : Reader α) mark [] (.error error) mark
  | left {mark : Bookmark} {count : Nat} :
      mark.left? = some count → Moves left mark [] (.ok count) mark
  | peek {mark : Bookmark} {rest : Bytes} :
      mark.rest? = some rest → Moves peek mark [] (.ok rest.head?) mark
  | take {size : Nat} {block : FixedBytes size} {before after : Bookmark} :
      before.take? size = some (.ok block.toList, after) →
      Moves (take size) before [block.toList] (.ok block) after
  | take_error {size : Nat} {error : WireError} {before after : Bookmark} :
      before.take? size = some (.error error, after) →
      Moves (take size) before [] (.error error) after
  | mapError {α : Type} {reader : Reader α} {before after : Bookmark} {pieces : List Bytes}
      {outcome : Except WireError α} (rename : WireError → WireError) :
      Moves reader before pieces outcome after →
      Moves (mapError rename reader) before pieces (outcome.mapError rename) after
  | bind {α β : Type} {first : Reader α} {second : α → Reader β} {before middle after : Bookmark}
      {pieces more : List Bytes} {value : α} {outcome : Except WireError β} :
      Moves first before pieces (.ok value) middle →
      Moves (second value) middle more outcome after →
      Moves (first >>= second) before (pieces ++ more) outcome after
  | bind_error {α β : Type} {first : Reader α} {second : α → Reader β}
      {before after : Bookmark} {pieces : List Bytes} {error : WireError} :
      Moves first before pieces (.error error) after →
      Moves (first >>= second) before pieces (.error error) after

/-- A bookmark within its buffer stays there, the pieces are what lies between the two
bookmarks, and the reader does the same with the bytes that are left. -/
theorem Moves.sound {reader : Reader α} {before after : Bookmark} {pieces : List Bytes}
    {outcome : Except WireError α} (moves : reader.Moves before pieces outcome after)
    (inside : before.Inside) :
    before.Advances pieces.flatten after ∧ reader.run before.unread = ⟨outcome, after.unread⟩ := by
  induction moves with
  | pure value mark => exact ⟨.refl inside, rfl⟩
  | fail error mark => exact ⟨.refl inside, rfl⟩
  | left counted =>
      cases inside.left?_eq.symm.trans counted
      exact ⟨.refl inside, rfl⟩
  | peek sliced =>
      cases inside.rest?_eq.symm.trans sliced
      exact ⟨.refl inside, rfl⟩
  | @take size block before after taken =>
      by_cases enough : size ≤ before.unread.length
      · have answer := (inside.take?_of_le enough).symm.trans taken
        simp only [Option.some.injEq, Prod.mk.injEq, Except.ok.injEq] at answer
        rcases answer with ⟨bytes, rfl⟩
        have advances := Bookmark.Advances.take inside enough
        rw [bytes] at advances
        rw [List.flatten_singleton, advances.unread_eq, run_take_append]
        exact ⟨advances, rfl⟩
      · rw [inside.take?_of_lt (Nat.lt_of_not_le enough)] at taken
        cases taken
  | @take_error size error before after refused =>
      by_cases enough : size ≤ before.unread.length
      · rw [inside.take?_of_le enough] at refused
        cases refused
      · have short := Nat.lt_of_not_le enough
        cases (inside.take?_of_lt short).symm.trans refused
        exact ⟨.refl inside, run_take_of_length_lt short⟩
  | mapError rename _ ih =>
      rcases ih inside with ⟨advances, run⟩
      exact ⟨advances, by rw [run_mapError, run]⟩
  | bind _ _ firstIH secondIH =>
      rcases firstIH inside with ⟨advances, run⟩
      rcases secondIH advances.inside with ⟨further, runs⟩
      rw [List.flatten_append, run_bind_of_ok run]
      exact ⟨advances.trans further, runs⟩
  | bind_error _ ih =>
      rcases ih inside with ⟨advances, run⟩
      exact ⟨advances, run_bind_of_error run _⟩

/-! ## Readers that never get stuck -/

/-- The reader comes to an end at the bookmark. -/
def ProceedsAt (reader : Reader α) (before : Bookmark) : Prop :=
  ∃ pieces outcome after, reader.Moves before pieces outcome after

/-- The reader comes to an end at every bookmark within its buffer. -/
def Proceeds (reader : Reader α) : Prop :=
  ∀ before : Bookmark, before.Inside → reader.ProceedsAt before

theorem ProceedsAt.bind {first : Reader α} {second : α → Reader β} {before : Bookmark}
    (proceeds : first.ProceedsAt before)
    (continued : ∀ value pieces middle, first.Moves before pieces (.ok value) middle →
      (second value).ProceedsAt middle) : (first >>= second).ProceedsAt before := by
  rcases proceeds with ⟨pieces, outcome, middle, moves⟩
  cases outcome with
  | error error => exact ⟨_, _, _, .bind_error moves⟩
  | ok value =>
      rcases continued value pieces middle moves with ⟨more, outcome, after, moved⟩
      exact ⟨_, _, _, .bind moves moved⟩

theorem ProceedsAt.map {reader : Reader α} {before : Bookmark} (proceeds : reader.ProceedsAt before)
    (image : α → β) : (image <$> reader).ProceedsAt before := by
  rw [map_eq_pure_bind]
  apply proceeds.bind
  intro value pieces middle moves
  exact ⟨_, _, _, .pure (image value) middle⟩

/-- For a reader that reads itself again, it is enough that it comes to an end where it
does so with fewer bytes left. -/
theorem Proceeds.of_shorter {reader : Reader α}
    (again : ∀ before : Bookmark, before.Inside →
      (∀ middle : Bookmark, middle.Inside → middle.unread.length < before.unread.length →
        reader.ProceedsAt middle) → reader.ProceedsAt before) : reader.Proceeds := by
  intro before inside
  induction length : before.unread.length using Nat.strongRecOn generalizing before with
  | ind count ih =>
      apply again before inside
      intro middle within shorter
      exact ih _ (length ▸ shorter) middle within rfl

namespace Proceeds

variable {reader : Reader α}

theorem pure (value : α) : (pure value : Reader α).Proceeds :=
  fun before _ => ⟨_, _, _, .pure value before⟩

theorem fail (error : WireError) : (fail error : Reader α).Proceeds :=
  fun before _ => ⟨_, _, _, .fail error before⟩

theorem left : left.Proceeds :=
  fun _ inside => ⟨_, _, _, .left inside.left?_eq⟩

theorem peek : peek.Proceeds :=
  fun _ inside => ⟨_, _, _, .peek inside.rest?_eq⟩

theorem take (size : Nat) : (take size).Proceeds := by
  intro before inside
  by_cases enough : size ≤ before.unread.length
  · let block := FixedBytes.ofPrefix size before.unread enough
    exact ⟨[block.toList], .ok block, _, .take (inside.take?_of_le enough)⟩
  · exact ⟨_, _, _, .take_error (inside.take?_of_lt (Nat.lt_of_not_le enough))⟩

theorem mapError (proceeds : reader.Proceeds) (rename : WireError → WireError) :
    (mapError rename reader).Proceeds := by
  intro before inside
  rcases proceeds before inside with ⟨pieces, outcome, after, moves⟩
  exact ⟨_, _, _, .mapError rename moves⟩

theorem bind {second : α → Reader β} (proceeds : reader.Proceeds)
    (continued : ∀ value, (second value).Proceeds) : (reader >>= second).Proceeds := by
  intro before inside
  apply (proceeds before inside).bind
  intro value pieces middle moves
  exact continued value middle (moves.sound inside).1.inside

theorem map (proceeds : reader.Proceeds) (image : α → β) : (image <$> reader).Proceeds :=
  fun before inside => (proceeds before inside).map image

end Proceeds

/-! ## Basic readers move by taking blocks -/

theorem byte_eq_take : byte = FixedBytes.single <$> take 1 := by
  apply ext_run
  intro input
  rw [run_map]
  cases input with
  | nil => rfl
  | cons next rest =>
      rw [run_take_of_length_le (by simp)]
      rfl

/-- The size is compared with what is left, and then once more by the reader of the block. -/
theorem takeList_eq_take (size : Nat) :
    takeList size = left >>= fun count =>
      if count < size then fail .outOfBounds else FixedBytes.toList <$> take size := by
  apply ext_run
  intro input
  change _ = (if input.length < size then fail .outOfBounds
    else FixedBytes.toList <$> take size : Reader Bytes).run input
  by_cases short : input.length < size
  · simp only [takeList, short, if_true, run_fail]
  · rw [if_neg short, run_map_take_of_length_le _ (Nat.le_of_not_lt short)]
    simp only [takeList, short, if_false, FixedBytes.ofPrefix]

namespace Proceeds

theorem byte : byte.Proceeds := by
  rw [byte_eq_take]
  exact (take 1).map _

theorem takeList (size : Nat) : (takeList size).Proceeds := by
  rw [takeList_eq_take]
  apply left.bind
  intro count
  split
  · exact fail .outOfBounds
  · exact (take size).map _

theorem expectTag (expected : UInt8) : (expectTag expected).Proceeds := by
  apply byte.bind
  intro actual
  split
  · exact pure ()
  · exact fail _

end Proceeds

end Reader

/-- What becomes of the errors of reading a byte of a number. -/
def WireError.unterminated : WireError → WireError
  | .outOfBounds => .unterminatedZarith
  | error => error

namespace Zarith

/-- The bytes of a number are read one at a time, up to the one that ends it. -/
theorem readGroups_eq_loop :
    readGroups = Reader.byte.mapError WireError.unterminated >>= fun byte =>
      if continues byte then (byte :: ·) <$> readGroups else pure [byte] := by
  apply Reader.ext_run
  intro input
  cases input with
  | nil => rfl
  | cons byte rest =>
      change scan (byte :: rest) = (if continues byte then (byte :: ·) <$> readGroups
        else pure [byte] : Reader Bytes).run rest
      by_cases goesOn : continues byte = true
      · rw [scan_of_continues goesOn, if_pos goesOn, Reader.run_map]
        rfl
      · rw [scan_of_last goesOn, if_neg goesOn]
        rfl

theorem proceeds_readGroups : readGroups.Proceeds := by
  apply Reader.Proceeds.of_shorter
  intro before inside shorter
  rw [readGroups_eq_loop]
  apply (Reader.Proceeds.byte.mapError _ before inside).bind
  intro byte pieces middle moves
  rcases moves.sound inside with ⟨advances, run⟩
  have fewer : middle.unread.length < before.unread.length := by
    cases unread : before.unread with
    | nil =>
        rw [unread] at run
        cases run
    | cons next rest =>
        rw [unread] at run
        cases run
        exact Nat.lt_succ_self _
  split
  · exact (shorter middle advances.inside fewer).map _
  · exact Reader.Proceeds.pure [byte] middle advances.inside

end Zarith

end OperationForge
