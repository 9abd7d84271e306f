import OperationForge.Wire.Error

/-!
# Readers

A reader takes a value from the front of the input.  Its answer holds the outcome and the bytes that
are still unread, on failure too: what a failed read has consumed stays consumed.

Every reader carries the proof that the unread bytes are a suffix of its input.  Reading therefore
only ever moves forward, and a run of any readers in any order does so as well.
-/

namespace OperationForge

/-- The answer of a reader. -/
structure Read (α : Type) where
  /-- The value, or why there is none. -/
  outcome : Except WireError α
  /-- The bytes that are still unread. -/
  rest : Bytes

/-- A reader of values of type `α`. -/
structure Reader (α : Type) where
  run : Bytes → Read α
  rest_suffix : ∀ input, (run input).rest <:+ input

namespace Reader

variable {α β : Type}

/-- Succeeds without reading. -/
protected def pure (value : α) : Reader α where
  run input := ⟨.ok value, input⟩
  rest_suffix _ := List.suffix_rfl

/-- Fails without reading. -/
def fail (error : WireError) : Reader α where
  run input := ⟨.error error, input⟩
  rest_suffix _ := List.suffix_rfl

/-- The first reader, and on its success the second one on what is left. -/
protected def bind (first : Reader α) (second : α → Reader β) : Reader β where
  run input :=
    match first.run input with
    | ⟨.ok value, rest⟩ => (second value).run rest
    | ⟨.error error, rest⟩ => ⟨.error error, rest⟩
  rest_suffix input := by
    have forward := first.rest_suffix input
    split
    · next value rest answer =>
        rw [answer] at forward
        exact ((second value).rest_suffix rest).trans forward
    · next error rest answer => rwa [answer] at forward

instance : Monad Reader where
  pure := Reader.pure
  bind := Reader.bind

/-- The next `size` bytes.  A read that would run past the end consumes nothing. -/
def take (size : Nat) : Reader (FixedBytes size) where
  run input :=
    if enough : size ≤ input.length then
      ⟨.ok (.ofPrefix size input enough), input.drop size⟩
    else
      ⟨.error .outOfBounds, input⟩
  rest_suffix input := by
    split
    · exact List.drop_suffix size input
    · exact List.suffix_rfl

/-- The next byte. -/
def byte : Reader UInt8 where
  run
    | [] => ⟨.error .outOfBounds, []⟩
    | next :: rest => ⟨.ok next, rest⟩
  rest_suffix
    | [] => List.suffix_rfl
    | next :: rest => List.suffix_cons next rest

/-- The next `size` bytes, for a size that only the input tells.  The size is compared with what is
left before anything is read. -/
def takeList (size : Nat) : Reader Bytes where
  run input :=
    if input.length < size then ⟨.error .outOfBounds, input⟩
    else ⟨.ok (input.take size), input.drop size⟩
  rest_suffix input := by
    split
    · exact List.suffix_rfl
    · exact List.drop_suffix size input

/-- The next byte, left unread; nothing at the end of the input. -/
def peek : Reader (Option UInt8) where
  run input := ⟨.ok input.head?, input⟩
  rest_suffix _ := List.suffix_rfl

/-- All bytes that are left, left unread. -/
def remaining : Reader Bytes where
  run input := ⟨.ok input, input⟩
  rest_suffix _ := List.suffix_rfl

/-- Reads one byte, which has to be `expected`. -/
def expectTag (expected : UInt8) : Reader Unit := do
  let actual ← byte
  if actual = expected then pure () else fail (.wrongTag expected actual)

/-- Reads one byte and selects by it; a byte that selects nothing is an error. -/
def choose (choice : Choice) (select : UInt8 → Option α) : Reader α := do
  let tag ← byte
  match select tag with
  | some value => pure value
  | none => fail (.invalidVariant choice tag)

/-- A value that takes up the whole input. -/
def exactly (reader : Reader α) (input : Bytes) : Except WireError α :=
  match reader.run input with
  | ⟨.ok value, []⟩ => .ok value
  | ⟨.ok _, _ :: _⟩ => .error .extraInput
  | ⟨.error error, _⟩ => .error error

@[simp] theorem run_pure (value : α) (input : Bytes) :
    (pure value : Reader α).run input = ⟨.ok value, input⟩ :=
  rfl

@[simp] theorem run_fail (error : WireError) (input : Bytes) :
    (fail error : Reader α).run input = ⟨.error error, input⟩ :=
  rfl

theorem run_bind (first : Reader α) (second : α → Reader β) (input : Bytes) :
    (first >>= second).run input =
      match first.run input with
      | ⟨.ok value, rest⟩ => (second value).run rest
      | ⟨.error error, rest⟩ => ⟨.error error, rest⟩ :=
  rfl

/-- What follows a reader reads on where that reader stopped. -/
theorem rest_bind_suffix (first : Reader α) (second : α → Reader β) (input : Bytes) :
    ((first >>= second).run input).rest <:+ (first.run input).rest := by
  rw [run_bind]
  match first.run input with
  | ⟨.ok value, rest⟩ => exact (second value).rest_suffix rest
  | ⟨.error error, rest⟩ => exact List.suffix_rfl

@[simp] theorem rest_map (image : α → β) (reader : Reader α) (input : Bytes) :
    ((image <$> reader).run input).rest = (reader.run input).rest := by
  change ((reader >>= fun value => pure (image value)).run input).rest = _
  rw [run_bind]
  match reader.run input with
  | ⟨.ok _, _⟩ => rfl
  | ⟨.error _, _⟩ => rfl

@[simp] theorem run_byte_nil : byte.run [] = ⟨.error .outOfBounds, []⟩ :=
  rfl

@[simp] theorem run_byte_cons (next : UInt8) (rest : Bytes) :
    byte.run (next :: rest) = ⟨.ok next, rest⟩ :=
  rfl

/-- A tag is consumed whether it is the expected one or not. -/
@[simp] theorem rest_expectTag_cons (expected next : UInt8) (rest : Bytes) :
    ((expectTag expected).run (next :: rest)).rest = rest := by
  unfold expectTag
  rw [run_bind, run_byte_cons]
  by_cases right : next = expected <;> simp [right]

@[simp] theorem run_peek (input : Bytes) : peek.run input = ⟨.ok input.head?, input⟩ :=
  rfl

/-- A block in front of other bytes is what `take` reads. -/
@[simp] theorem run_take_append {size : Nat} (block : FixedBytes size) (rest : Bytes) :
    (take size).run (block.toList ++ rest) = ⟨.ok block, rest⟩ := by
  have enough : size ≤ (block.toList ++ rest).length := by simp
  have whole : FixedBytes.ofPrefix size (block.toList ++ rest) enough = block := by
    ext1
    simp [FixedBytes.ofPrefix]
  simp only [take, enough, ↓reduceDIte, whole]
  simp

@[simp] theorem run_takeList_append (front rest : Bytes) :
    (takeList front.length).run (front ++ rest) = ⟨.ok front, rest⟩ := by
  simp [takeList]

/-- A byte that selects a value is consumed. -/
theorem run_choose_of_some {choice : Choice} {select : UInt8 → Option α} {tag : UInt8} {value : α}
    (selected : select tag = some value) (rest : Bytes) :
    (choose choice select).run (tag :: rest) = ⟨.ok value, rest⟩ := by
  unfold choose
  rw [run_bind, run_byte_cons]
  simp [selected]

/-- A byte that selects nothing is consumed as well. -/
theorem run_choose_of_none {choice : Choice} {select : UInt8 → Option α} {tag : UInt8}
    (unselected : select tag = none) (rest : Bytes) :
    (choose choice select).run (tag :: rest) = ⟨.error (.invalidVariant choice tag), rest⟩ := by
  unfold choose
  rw [run_bind, run_byte_cons]
  simp [unselected]

theorem exactly_eq_ok_iff (reader : Reader α) (input : Bytes) (value : α) :
    reader.exactly input = .ok value ↔ reader.run input = ⟨.ok value, []⟩ := by
  unfold exactly
  match reader.run input with
  | ⟨.ok other, []⟩ => simp
  | ⟨.ok other, next :: rest⟩ => simp
  | ⟨.error error, rest⟩ => simp

end Reader

end OperationForge
