import OperationForge.Proofs.Bookmarks
import OperationForge.Proofs.Boundaries

/-!
# Steps of a cursor

A cursor can be told to take bytes in four ways, to look at what comes next, or to read
values of any type, one step after the other.  Each of these steps gets through on a
bookmark, be it to a value or to an error.  So a cursor never leaves its buffer, and all
that any steps took, those that failed among them, is the buffer up to the position.
-/

namespace OperationForge

namespace Operation

/-- Entries are read as long as anything is left. -/
theorem readContents_eq_loop :
    readContents = Reader.left >>= fun count =>
      if count = 0 then pure []
      else Contents.read >>= fun entry => (entry :: ·) <$> readContents := by
  apply Reader.ext_run
  intro input
  change scanContents input = (if input.length = 0 then pure []
    else Contents.read >>= fun entry => (entry :: ·) <$> readContents :
      Reader (List Contents)).run input
  by_cases empty : input.length = 0
  · rw [if_pos empty, List.length_eq_zero_iff.mp empty, scanContents]
    rfl
  · rw [if_neg empty]
    cases answer : Contents.read.run input with
    | mk outcome rest =>
        cases outcome with
        | error error =>
            rw [Reader.run_bind_of_error answer]
            exact scanContents_of_error (mt List.length_eq_zero_iff.mpr empty) answer
        | ok entry =>
            rw [Reader.run_bind_of_ok answer, Reader.run_map]
            exact scanContents_of_run_read answer

end Operation

/-! ## Values of any type -/

theorem Reader.Composed.proceeds {α : Type} {raised : WireError → Prop} {reader : Reader α}
    (composed : reader.Composed raised) : reader.Proceeds := by
  induction composed with
  | pure value => exact .pure value
  | fail _ => exact .fail _
  | byte => exact .byte
  | take size => exact .take size
  | takeList size => exact .takeList size
  | readGroups => exact Zarith.proceeds_readGroups
  | bind _ _ first second => exact first.bind second

theorem Format.proceeds_option {α : Type} {format : Format α} (proceeds : format.read.Proceeds) :
    format.option.read.Proceeds := by
  apply plain_bool.proceeds.bind
  intro present
  cases present with
  | false => exact .pure none
  | true => exact proceeds.map some

theorem ContentsKind.TagsPlain.proceeds {α : Type} {kind : ContentsKind} {format : Format α}
    (tags : kind.TagsPlain format) : format.read.Proceeds := by
  rcases tags with ⟨body, plain, rfl⟩
  exact (Reader.Proceeds.expectTag kind.tag).bind fun _ => plain.proceeds

theorem Contents.proceeds_readKind (kind : ContentsKind) : (readKind kind).Proceeds := by
  cases kind with
  | revelation => exact Revelation.tagsPlain.proceeds.map revelation
  | transaction => exact Transaction.tagsPlain.proceeds.map transaction
  | origination => exact Origination.tagsPlain.proceeds.map origination
  | delegation => exact Delegation.tagsPlain.proceeds.map delegation
  | endorsement => exact Endorsement.tagsPlain.proceeds.map endorsement

theorem Contents.proceeds_read : Contents.read.Proceeds := by
  apply Reader.Proceeds.peek.bind
  intro next?
  cases next? with
  | none => exact .fail _
  | some tag =>
      dsimp only
      split
      · exact .fail _
      · exact proceeds_readKind _

theorem Operation.proceeds_readContents : readContents.Proceeds := by
  apply Reader.Proceeds.of_shorter
  intro before inside shorter
  rw [readContents_eq_loop]
  apply (Reader.Proceeds.left before inside).bind
  intro count pieces behind moves
  -- Counting moves nothing on, so the first entry is read at `before`.
  rcases moves.sound inside with ⟨advances, run⟩
  have still : before.unread = behind.unread := congrArg Read.rest run
  split
  · exact Reader.Proceeds.pure [] behind advances.inside
  · apply (Contents.proceeds_read behind advances.inside).bind
    intro entry pieces middle moves
    rcases moves.sound advances.inside with ⟨further, run⟩
    have fewer := Contents.rest_shorter run
    rw [← still] at fewer
    exact (shorter middle further.inside fewer).map _

theorem Operation.proceeds_format : format.read.Proceeds := by
  apply (Identifier.plain_format .blockHash).proceeds.bind
  intro branch
  apply proceeds_readContents.bind
  intro contents
  split
  · exact .pure _
  · exact .fail _

theorem WireType.proceeds (type : WireType) : type.format.read.Proceeds := by
  have unsigned {β : Type} (width : Nat) (ofNat : Nat → β) (toNat : β → Nat) :
      (Format.bigEndian width ofNat toNat).read.Proceeds :=
    (Format.plain_bigEndian width ofNat toNat).proceeds
  induction type with
  | uint8 | uint16 | uint32 | uint64 => exact unsigned _ _ _
  | int8 | int16 | int32 | int64 => exact (unsigned _ _ _).map _
  | bool => exact Format.plain_bool.proceeds
  | block size => exact .take size
  | option inner ih => exact Format.proceeds_option ih
  | blob bound => exact (Blob.composed_format (fun _ => True) bound fun _ _ _ => trivial).proceeds
  | natural => exact Zarith.plain_natural.proceeds
  | integer => exact Zarith.plain_integer.proceeds
  | publicKey => exact PublicKey.plain_format.proceeds
  | keyHash => exact KeyHash.plain_format.proceeds
  | address => exact Address.plain_format.proceeds
  | identifier kind => exact (Identifier.plain_format kind).proceeds
  | entrypoint => exact Entrypoint.plain_format.proceeds
  | parameters => exact Parameters.plain_format.proceeds
  | script => exact Script.plain_format.proceeds
  | manager => exact Manager.plain_format.proceeds
  | revelation => exact Revelation.tagsPlain.proceeds
  | transaction => exact Transaction.tagsPlain.proceeds
  | origination => exact Origination.tagsPlain.proceeds
  | delegation => exact Delegation.tagsPlain.proceeds
  | endorsement => exact Endorsement.tagsPlain.proceeds
  | contents => exact Contents.proceeds_read

/-- A type that has a format: the wire types, operations, which run to the end of the
input, and options of these. -/
inductive MessageType where
  | wire (type : WireType)
  | operation
  | option (inner : MessageType)
  deriving DecidableEq

namespace MessageType

/-- The values of the type. -/
def Value : MessageType → Type
  | wire type => type.Value
  | operation => Operation
  | option inner => Option inner.Value

/-- The format of the type. -/
def format : (type : MessageType) → Format type.Value
  | wire type => type.format
  | operation => Operation.format
  | option inner => inner.format.option

theorem proceeds (type : MessageType) : type.format.read.Proceeds := by
  induction type with
  | wire type => exact type.proceeds
  | operation => exact Operation.proceeds_format
  | option inner ih => exact Format.proceeds_option ih

end MessageType

namespace Cursor

/-! ## Steps -/

/-- What a cursor can be told to do. -/
inductive Step where
  /-- Takes a byte. -/
  | byte
  /-- Takes an array. -/
  | array (size : Nat)
  /-- Takes as many bytes as a buffer holds. -/
  | fill (size : Nat)
  /-- Takes a list of bytes, which it makes only if so many are left. -/
  | list (size : Nat)
  /-- Looks at the next byte. -/
  | peek
  /-- Looks at all that is left. -/
  | rest
  /-- Takes a byte that has to be the expected one. -/
  | tag (expected : UInt8)
  /-- Reads a value. -/
  | value (type : MessageType)
  deriving DecidableEq

namespace Step

/-- What the step answers if it succeeds. -/
def Answer : Step → Type
  | byte => UInt8
  | array size => FixedBytes size
  | fill _ => Bytes
  | list _ => Bytes
  | peek => Option UInt8
  | rest => Bytes
  | tag _ => Unit
  | value type => type.Value

/-- The reader that does the step. -/
def reader : (step : Step) → Reader step.Answer
  | byte => Reader.byte
  | array size => Reader.take size
  | fill size => FixedBytes.toList <$> Reader.take size
  | list size => Reader.takeList size
  | peek => Reader.peek
  | rest => Reader.remaining
  | tag expected => Reader.expectTag expected
  | value type => type.format.read

/-- What the step does at the bookmark `before`.  No reader of values sees all that is left;
only the step that asks for it does. -/
inductive Does : (step : Step) →
    Bookmark → List Bytes → Except WireError step.Answer → Bookmark → Prop where
  | reader {step : Step} {before after : Bookmark} {pieces : List Bytes}
      {outcome : Except WireError step.Answer} :
      step.reader.Moves before pieces outcome after → Does step before pieces outcome after
  | rest {mark : Bookmark} {left : Bytes} :
      mark.rest? = some left → Does rest mark [] (.ok left) mark

theorem Does.sound {step : Step} {before after : Bookmark} {pieces : List Bytes}
    {outcome : Except WireError step.Answer} (does : step.Does before pieces outcome after)
    (inside : before.Inside) :
    before.Advances pieces.flatten after ∧
      step.reader.run before.unread = ⟨outcome, after.unread⟩ := by
  cases does with
  | reader moves => exact moves.sound inside
  | rest sliced =>
      cases inside.rest?_eq.symm.trans sliced
      exact ⟨.refl inside, rfl⟩

/-- No step gets stuck. -/
theorem exists_does (step : Step) {before : Bookmark} (inside : before.Inside) :
    ∃ pieces outcome after, step.Does before pieces outcome after := by
  have moved {step : Step} (proceeds : step.reader.Proceeds) :
      ∃ pieces outcome after, step.Does before pieces outcome after := by
    rcases proceeds before inside with ⟨pieces, outcome, after, moves⟩
    exact ⟨pieces, outcome, after, .reader moves⟩
  cases step with
  | byte => exact moved .byte
  | array size => exact moved (.take size)
  | fill size => exact moved ((Reader.Proceeds.take size).map _)
  | list size => exact moved (.takeList size)
  | peek => exact moved .peek
  | rest => exact ⟨[], _, before, .rest inside.rest?_eq⟩
  | tag expected => exact moved (.expectTag expected)
  | value type => exact moved type.proceeds

/-- The step does nothing but take `size` bytes, which its answer holds. -/
inductive Reads : (step : Step) → Nat → (step.Answer → Bytes) → Prop where
  | byte : Reads byte 1 fun next : UInt8 => [next]
  | array (size : Nat) : Reads (array size) size FixedBytes.toList
  | fill (size : Nat) : Reads (fill size) size id
  | list (size : Nat) : Reads (list size) size id

theorem Reads.run_of_le {step : Step} {size : Nat} {bytes : step.Answer → Bytes}
    (reads : step.Reads size bytes) {input : Bytes} (enough : size ≤ input.length) :
    ∃ answer, step.reader.run input = ⟨.ok answer, input.drop size⟩ ∧
      bytes answer = input.take size := by
  cases reads with
  | byte =>
      cases input with
      | nil => cases enough
      | cons next rest => exact ⟨next, rfl, rfl⟩
  | array => exact ⟨_, Reader.run_take_of_length_le enough, rfl⟩
  | fill => exact ⟨_, Reader.run_map_take_of_length_le FixedBytes.toList enough, rfl⟩
  | list =>
      have run : (Reader.takeList size).run input = ⟨.ok (input.take size), input.drop size⟩ :=
        if_neg (Nat.not_lt.mpr enough)
      exact ⟨_, run, rfl⟩

theorem Reads.run_of_lt {step : Step} {size : Nat} {bytes : step.Answer → Bytes}
    (reads : step.Reads size bytes) {input : Bytes} (short : input.length < size) :
    step.reader.run input = ⟨.error .outOfBounds, input⟩ := by
  cases reads with
  | byte =>
      cases List.length_eq_zero_iff.mp (Nat.lt_one_iff.mp short)
      rfl
  | array => exact Reader.run_take_of_length_lt short
  | fill => exact Reader.run_map_take_of_length_lt FixedBytes.toList short
  | list => exact if_pos short

end Step

/-- The cursor after the steps. -/
def after (cursor : Cursor) (steps : List Step) : Cursor :=
  steps.foldl (fun cursor step => (cursor.read step.reader).2) cursor

/-- Done one after the other, the steps take the pieces and bring the bookmark `before` to
`after`. -/
inductive Runs : Bookmark → List Step → List Bytes → Bookmark → Prop where
  | nil (mark : Bookmark) : Runs mark [] [] mark
  | cons {before middle after : Bookmark} {step : Step} {steps : List Step}
      {pieces more : List Bytes} {outcome : Except WireError step.Answer} :
      step.Does before pieces outcome middle → Runs middle steps more after →
      Runs before (step :: steps) (pieces ++ more) after

/-- The buffer and the position of a cursor. -/
def mark (cursor : Cursor) : Bookmark := ⟨cursor.buffer, cursor.position⟩

section Marks

variable {cursor : Cursor} {pieces : List Bytes} {after : Bookmark}

theorem inside_mark (cursor : Cursor) : cursor.mark.Inside :=
  Nat.sub_le _ _

theorem unread_mark (cursor : Cursor) : cursor.mark.unread = cursor.rest :=
  (List.suffix_iff_eq_drop.mp cursor.rest_suffix).symm

/-- A cursor does what happens at its bookmark. -/
theorem read_of_does {step : Step} {outcome : Except WireError step.Answer}
    (does : step.Does cursor.mark pieces outcome after) :
    cursor.mark.Advances pieces.flatten after ∧ (cursor.read step.reader).1 = outcome ∧
      (cursor.read step.reader).2.mark = after := by
  rcases does.sound cursor.inside_mark with ⟨advances, run⟩
  rw [unread_mark] at run
  have left : (cursor.read step.reader).2.rest = after.unread := congrArg Read.rest run
  have split : cursor.rest = pieces.flatten ++ (cursor.read step.reader).2.rest := by
    rw [left, ← unread_mark, advances.unread_eq]
  refine ⟨advances, congrArg Read.outcome run, Bookmark.ext advances.buffer_eq.symm ?_⟩
  rw [advances.position_eq]
  exact position_of_rest rfl split

theorem Runs.sound {steps : List Step} (runs : Runs cursor.mark steps pieces after) :
    cursor.mark.Advances pieces.flatten after ∧ (cursor.after steps).mark = after := by
  induction steps generalizing cursor pieces with
  | nil =>
      cases runs
      exact ⟨.refl cursor.inside_mark, rfl⟩
  | cons step steps ih =>
      cases runs with
      | cons does runs =>
          rcases read_of_does does with ⟨advances, -, rfl⟩
          rcases ih runs with ⟨further, same⟩
          rw [List.flatten_append]
          exact ⟨advances.trans further, same⟩

theorem exists_runs (cursor : Cursor) (steps : List Step) :
    ∃ pieces after, Runs cursor.mark steps pieces after := by
  induction steps generalizing cursor with
  | nil => exact ⟨[], _, .nil _⟩
  | cons step steps ih =>
      rcases step.exists_does cursor.inside_mark with ⟨pieces, outcome, middle, does⟩
      rcases read_of_does does with ⟨-, -, rfl⟩
      rcases ih (cursor.read step.reader).2 with ⟨more, after, runs⟩
      exact ⟨_, _, .cons does runs⟩

end Marks

/-! ## What steps take -/

@[simp] theorem mark_start (buffer : Bytes) : (start buffer).mark = ⟨buffer, 0⟩ :=
  Bookmark.ext rfl (position_start buffer)

@[simp] theorem buffer_after (cursor : Cursor) (steps : List Step) :
    (cursor.after steps).buffer = cursor.buffer := by
  rcases exists_runs cursor steps with ⟨pieces, mark, runs⟩
  rcases runs.sound with ⟨advances, rfl⟩
  exact advances.buffer_eq

/-- A cursor never goes back, whatever it reads. -/
theorem position_le_position_read {α : Type} (cursor : Cursor) (reader : Reader α) :
    cursor.position ≤ (cursor.read reader).2.position :=
  Nat.sub_le_sub_left (reader.rest_suffix cursor.rest).length_le cursor.buffer.length

theorem read_of_rest {α : Type} {cursor : Cursor} {reader : Reader α}
    {outcome : Except WireError α} (run : reader.run cursor.rest = ⟨outcome, cursor.rest⟩) :
    cursor.read reader = (outcome, cursor) := by
  rcases cursor with ⟨buffer, rest, suffix⟩
  simp only [read] at *
  simp [run]

/-- What a single read does depends on its size alone: it takes as many bytes as it is
told to, if so many are left, and nothing otherwise. -/
theorem Step.Reads.read_eq {step : Step} {size : Nat} {bytes : step.Answer → Bytes}
    (reads : step.Reads size bytes) (cursor : Cursor) :
    (size ≤ cursor.remaining → ∃ answer next, cursor.read step.reader = (.ok answer, next) ∧
      bytes answer = cursor.rest.take size ∧ next.position = cursor.position + size) ∧
    (cursor.remaining < size → cursor.read step.reader = (.error .outOfBounds, cursor)) := by
  constructor
  · intro enough
    rcases reads.run_of_le enough with ⟨answer, run, taken⟩
    rcases cursor.exists_read run with ⟨next, read, same, rest⟩
    refine ⟨answer, next, read, taken, ?_⟩
    have split : cursor.rest = cursor.rest.take size ++ next.rest := by
      rw [rest, List.take_append_drop]
    rw [position_of_rest same split, List.length_take_of_le enough]
  · intro short
    exact read_of_rest (reads.run_of_lt short)

/-- After any steps, failed ones among them, the position is within the buffer, and what
is left is the buffer from there on.  The same steps get through on a bookmark, to the same
position, and what they take on the way is the buffer up to there.  No step goes back, and
each comes to the same on the bookmark.  Steps that look move nothing on.  A single read
takes as many bytes as it is told to, in whichever way, or nothing if fewer are left. -/
theorem steps_keep_position (buffer : Bytes) (steps : List Step) :
    let cursor := (start buffer).after steps
    (cursor.buffer = buffer ∧ cursor.position ≤ buffer.length ∧
      cursor.position + cursor.remaining = buffer.length ∧
      cursor.rest = buffer.drop cursor.position) ∧
    (∃ pieces mark, Runs ⟨buffer, 0⟩ steps pieces mark) ∧
    (∀ pieces mark, Runs ⟨buffer, 0⟩ steps pieces mark →
      mark = ⟨buffer, cursor.position⟩ ∧ pieces.flatten = buffer.take cursor.position) ∧
    (∀ step : Step, cursor.position ≤ (cursor.read step.reader).2.position ∧
      ∃ pieces, step.Does cursor.mark pieces
        (cursor.read step.reader).1 (cursor.read step.reader).2.mark) ∧
    cursor.read Step.peek.reader = (.ok buffer[cursor.position]?, cursor) ∧
    cursor.read Step.rest.reader = (.ok (buffer.drop cursor.position), cursor) ∧
    ∀ (step : Step) size bytes, step.Reads size bytes →
      (size ≤ cursor.remaining → ∃ answer next, cursor.read step.reader = (.ok answer, next) ∧
        bytes answer = (buffer.drop cursor.position).take size ∧
        next.position = cursor.position + size) ∧
      (cursor.remaining < size → cursor.read step.reader = (.error .outOfBounds, cursor)) := by
  intro cursor
  have same : cursor.buffer = buffer := buffer_after (start buffer) steps
  have left : cursor.rest = buffer.drop cursor.position := by
    rw [← unread_mark, ← same]
    rfl
  have whole : cursor.position + cursor.remaining = buffer.length := by
    rw [position_add_remaining, same]
  refine ⟨⟨same, ?within, whole, left⟩, ?gets, ?taken, ?onward, ?peek, ?rest, ?reads⟩
  case within => exact whole ▸ Nat.le_add_right _ _
  case gets =>
    rw [← mark_start]
    exact exists_runs (start buffer) steps
  case taken =>
    intro pieces mark runs
    rw [← mark_start] at runs
    rcases runs.sound with ⟨advances, equal⟩
    have reached : mark = ⟨buffer, cursor.position⟩ := equal.symm.trans (Bookmark.ext same rfl)
    rw [mark_start] at advances
    rw [advances.eq_take, reached]
    exact ⟨rfl, rfl⟩
  case onward =>
    intro step
    refine ⟨cursor.position_le_position_read step.reader, ?_⟩
    rcases step.exists_does cursor.inside_mark with ⟨pieces, outcome, after, does⟩
    rcases read_of_does does with ⟨-, rfl, rfl⟩
    exact ⟨pieces, does⟩
  case peek =>
    have next : cursor.rest.head? = buffer[cursor.position]? := by
      rw [left, List.head?_drop]
    rw [← next]
    exact read_of_rest rfl
  case rest =>
    rw [← left]
    exact read_of_rest rfl
  case reads =>
    intro step size bytes reads
    rw [← left]
    exact reads.read_eq cursor

/-- A key hash of which only the tag is there, a list that is too long, a wrong tag and a
number that does not end, with reads between them, take up a buffer of seven bytes. -/
theorem brokenSteps_keep_position :
    let buffer : Bytes := [0x05, 0x00, 0x03, 0xaa, 0xbb, 0x80, 0x80]
    let steps : List Step := [.peek, .byte, .value (.wire .keyHash), .list 100, .array 2, .rest,
      .tag 0x00, .value (.wire .natural)]
    let cursor := (start buffer).after [.byte, .value (.wire .keyHash)]
    (∃ pieces mark, Runs ⟨buffer, 0⟩ steps pieces mark ∧ mark = ⟨buffer, 7⟩ ∧
      pieces.flatten = buffer) ∧
    cursor.position = 2 ∧
    (∃ answer next, cursor.read (Step.list 3).reader = (.ok answer, next) ∧
      answer = [0x03, 0xaa, 0xbb] ∧ next.position = 5) ∧
    cursor.read (Step.fill 6).reader = (.error .outOfBounds, cursor) := by
  intro buffer steps cursor
  have position : ((start buffer).after steps).position = 7 := by decide +kernel
  rcases steps_keep_position buffer steps with ⟨-, gets, taken, -⟩
  rcases gets with ⟨pieces, mark, runs⟩
  rcases taken pieces mark runs with ⟨reached, flatten⟩
  rw [position] at reached flatten
  rcases steps_keep_position buffer [.byte, .value (.wire .keyHash)] with ⟨-, -, -, -, -, -, reads⟩
  have front : cursor.position = 2 := by decide +kernel
  have left : cursor.remaining = 5 := by decide +kernel
  refine ⟨⟨pieces, mark, runs, reached, flatten⟩, front, ?_, ?_⟩
  · rcases (reads _ _ _ (.list 3)).1 (by rw [left]; decide) with ⟨answer, next, read, bytes, moved⟩
    refine ⟨answer, next, read, ?_, ?_⟩
    · rw [front] at bytes
      exact bytes
    · rw [moved, front]
  · exact (reads _ _ _ (.fill 6)).2 (by rw [left]; decide)

end Cursor

end OperationForge
