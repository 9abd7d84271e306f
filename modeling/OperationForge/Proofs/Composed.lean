import Mathlib.Tactic.Choose
import OperationForge.Proofs.Padding

/-!
# Readers made of basic readers

Most readers are basic readers in sequence.  Three facts hold of all of these.  A
reader fails for want of input or with an error that it raises itself.  Its answer is
final unless it ran out of input: more input behind changes neither the outcome nor
what is taken, be it a value or an error.  And the bytes of a value are all that it
needs to see of the input, but none of them can be missing.
-/

namespace OperationForge

/-- The errors of inputs that end too early. -/
inductive WireError.Shortage : WireError → Prop where
  | outOfBounds : Shortage .outOfBounds
  | unterminatedZarith : Shortage .unterminatedZarith

/-- The reader ran out of input. -/
def Read.Starved {α : Type} (answer : Read α) : Prop :=
  ∃ error, error.Shortage ∧ answer.outcome = .error error

namespace Zarith

theorem scan_of_continues {byte : UInt8} (goesOn : continues byte = true) (rest : Bytes) :
    scan (byte :: rest) = ⟨(scan rest).outcome.map (byte :: ·), (scan rest).rest⟩ := by
  rw [scan, if_pos goesOn]

theorem scan_of_last {byte : UInt8} (ends : ¬continues byte = true) (rest : Bytes) :
    scan (byte :: rest) = ⟨.ok [byte], rest⟩ := by
  rw [scan, if_neg ends]

end Zarith

namespace Reader

variable {α β : Type}

/-- The reader's answer stays the same when more input follows, unless the reader
ran out of input. -/
def Decisive (reader : Reader α) : Prop :=
  ∀ input more, (reader.run input).Starved ∨
    reader.run (input ++ more) = ⟨(reader.run input).outcome, (reader.run input).rest ++ more⟩

/-- The beginning of a spelling is too little input for a decisive reader, not a
value of its own. -/
theorem Recognizes.starved {reader : Reader α} {spells : α → Bytes → Prop}
    (recognizes : reader.Recognizes spells) (decisive : reader.Decisive) {value : α}
    {front back : Bytes} (spelled : spells value (front ++ back)) (proper : back ≠ []) :
    (reader.run front).Starved := by
  rcases decisive front back with starved | final
  · exact starved
  · have whole := recognizes.run_append spelled []
    rw [List.append_nil, final] at whole
    exact absurd (List.append_eq_nil_iff.mp (congrArg Read.rest whole)).2 proper

/-- The reader is put together from basic readers and raises no errors of its own
but the given ones. -/
inductive Composed (raised : WireError → Prop) : {α : Type} → Reader α → Prop where
  | pure {α : Type} (value : α) : Composed raised (pure value)
  | fail {α : Type} {error : WireError} : raised error → Composed raised (fail error : Reader α)
  | byte : Composed raised byte
  | take (size : Nat) : Composed raised (take size)
  | takeList (size : Nat) : Composed raised (takeList size)
  | readGroups : Composed raised Zarith.readGroups
  | bind {α β : Type} {first : Reader α} {second : α → Reader β} :
      Composed raised first → (∀ value, Composed raised (second value)) →
      Composed raised (first >>= second)

/-! ## Basic readers and sequences are decisive -/

theorem decisive_byte : byte.Decisive := by
  intro input more
  cases input with
  | nil => exact .inl ⟨_, .outOfBounds, rfl⟩
  | cons next rest => exact .inr rfl

theorem decisive_take (size : Nat) : (take size).Decisive := by
  intro input more
  by_cases enough : size ≤ input.length
  · right
    have longer : size ≤ (input ++ more).length := by
      rw [List.length_append]
      exact Nat.le_add_right_of_le enough
    simp only [take, enough, longer, ↓reduceDIte, FixedBytes.ofPrefix,
      List.take_append_of_le_length enough, List.drop_append_of_le_length enough]
  · left
    rw [run_take_of_length_lt (Nat.lt_of_not_le enough)]
    exact ⟨_, .outOfBounds, rfl⟩

theorem decisive_takeList (size : Nat) : (takeList size).Decisive := by
  intro input more
  by_cases short : input.length < size
  · left
    exact ⟨_, .outOfBounds, by simp only [takeList, short, if_true]⟩
  · right
    have enough := Nat.le_of_not_lt short
    have longer : ¬(input ++ more).length < size := by
      rw [List.length_append]
      exact Nat.not_lt.mpr (Nat.le_add_right_of_le enough)
    simp only [takeList, short, longer, if_false,
      List.take_append_of_le_length enough, List.drop_append_of_le_length enough]

theorem decisive_readGroups : Zarith.readGroups.Decisive := by
  intro input more
  change (Zarith.scan input).Starved ∨
    Zarith.scan (input ++ more) = ⟨(Zarith.scan input).outcome, (Zarith.scan input).rest ++ more⟩
  induction input with
  | nil => exact .inl ⟨_, .unterminatedZarith, rfl⟩
  | cons byte rest ih =>
      rw [List.cons_append]
      by_cases goesOn : Zarith.continues byte = true
      · rw [Zarith.scan_of_continues goesOn, Zarith.scan_of_continues goesOn]
        rcases ih with starved | final
        · rcases starved with ⟨error, shortage, answer⟩
          rw [answer]
          exact .inl ⟨error, shortage, rfl⟩
        · rw [final]
          exact .inr rfl
      · rw [Zarith.scan_of_last goesOn, Zarith.scan_of_last goesOn]
        exact .inr rfl

theorem Decisive.bind {first : Reader α} {second : α → Reader β} (decisive : first.Decisive)
    (continued : ∀ value, (second value).Decisive) : (first >>= second).Decisive := by
  intro input more
  have final := decisive input more
  cases answer : first.run input with
  | mk outcome between =>
      rw [answer] at final
      cases outcome with
      | error error =>
          rw [run_bind_of_error answer]
          rcases final with starved | final
          · rcases starved with ⟨_, shortage, equal⟩
            cases equal
            exact .inl ⟨error, shortage, rfl⟩
          · exact .inr (run_bind_of_error final second)
      | ok middle =>
          rw [run_bind_of_ok answer]
          rcases final with ⟨_, _, impossible⟩ | final
          · cases impossible
          · rw [run_bind_of_ok final]
            exact continued middle between more

/-! ## Incremental readers -/

/-- The reader can be given its input as it comes in: it needs the bytes of a value and
nothing behind them, and only for want of input does it ever change its answer. -/
structure Incremental (reader : Reader α) : Prop where
  decisive : reader.Decisive
  recognizes : ∃ spells, reader.Recognizes spells

namespace Incremental

variable {reader : Reader α}

theorem pure (value : α) : (pure value : Reader α).Incremental :=
  ⟨fun _ _ => .inr rfl, _, .pure value⟩

theorem fail (error : WireError) : (fail error : Reader α).Incremental :=
  ⟨fun _ _ => .inr rfl, _, .fail error⟩

theorem byte : byte.Incremental :=
  ⟨decisive_byte, _, .byte⟩

theorem bind {second : α → Reader β} (first : reader.Incremental)
    (continued : ∀ value, (second value).Incremental) : (reader >>= second).Incremental where
  decisive := first.decisive.bind fun value => (continued value).decisive
  recognizes := by
    rcases first.recognizes with ⟨spells, recognizes⟩
    choose after behind using fun value => (continued value).recognizes
    exact ⟨_, recognizes.bind fun value _ _ => behind value⟩

theorem map (incremental : reader.Incremental) (image : α → β) :
    (image <$> reader).Incremental := by
  rw [map_eq_pure_bind]
  exact incremental.bind fun value => .pure (image value)

/-- The value that was read in front of something is read in front of anything. -/
theorem run_append (incremental : reader.Incremental) {value : α} {used rest : Bytes}
    (answer : reader.run (used ++ rest) = ⟨.ok value, rest⟩) (more : Bytes) :
    reader.run (used ++ more) = ⟨.ok value, more⟩ := by
  rcases incremental.recognizes with ⟨spells, recognizes⟩
  rcases (recognizes _ _ _).mp answer with ⟨front, spelled, split⟩
  rw [List.append_cancel_right split]
  exact recognizes.run_append spelled more

/-- A part of the bytes of a value is too little input. -/
theorem starved_of_take (incremental : reader.Incremental) {value : α} {used rest : Bytes}
    (answer : reader.run (used ++ rest) = ⟨.ok value, rest⟩) {cut : Nat}
    (short : cut < used.length) : (reader.run (used.take cut)).Starved := by
  rcases incremental.recognizes with ⟨spells, recognizes⟩
  rcases (recognizes _ _ _).mp answer with ⟨front, spelled, split⟩
  rw [← List.append_cancel_right split, ← List.take_append_drop cut used] at spelled
  apply recognizes.starved incremental.decisive spelled
  intro nothing
  exact absurd (List.drop_eq_nil_iff.mp nothing) (Nat.not_le.mpr short)

end Incremental

namespace Composed

variable {raised : WireError → Prop} {reader : Reader α}

theorem incremental (composed : reader.Composed raised) : reader.Incremental := by
  induction composed with
  | pure value => exact .pure value
  | fail _ => exact .fail _
  | byte => exact .byte
  | take size => exact ⟨decisive_take size, _, .take size⟩
  | takeList size => exact ⟨decisive_takeList size, _, .takeList size⟩
  | readGroups => exact ⟨decisive_readGroups, _, Zarith.readGroups_recognizes⟩
  | bind _ _ first second => exact first.bind second

/-! ## What readers fail with -/

theorem shortage_of_readGroups {input : Bytes} {error : WireError}
    (failed : (Zarith.readGroups.run input).outcome = .error error) : error.Shortage := by
  change (Zarith.scan input).outcome = .error error at failed
  induction input with
  | nil =>
      cases failed
      exact .unterminatedZarith
  | cons byte rest ih =>
      by_cases goesOn : Zarith.continues byte = true
      · rw [Zarith.scan_of_continues goesOn] at failed
        cases answer : (Zarith.scan rest).outcome with
        | error other =>
            rw [answer] at failed
            cases failed
            exact ih answer
        | ok groups =>
            rw [answer] at failed
            cases failed
      · rw [Zarith.scan_of_last goesOn] at failed
        cases failed

/-- A reader fails for want of input or with an error that it raises. -/
theorem error_of_run (composed : reader.Composed raised) {input : Bytes} {error : WireError}
    (failed : (reader.run input).outcome = .error error) : error.Shortage ∨ raised error := by
  induction composed generalizing input with
  | pure value => cases failed
  | fail raises =>
      cases failed
      exact .inr raises
  | byte =>
      cases input with
      | nil =>
          cases failed
          exact .inl .outOfBounds
      | cons next rest => cases failed
  | take size =>
      simp only [Reader.take] at failed
      split at failed <;> cases failed
      exact .inl .outOfBounds
  | takeList size =>
      simp only [Reader.takeList] at failed
      split at failed <;> cases failed
      exact .inl .outOfBounds
  | readGroups => exact .inl (shortage_of_readGroups failed)
  | @bind _ _ first second _ _ firstFails secondFails =>
      cases answer : first.run input with
      | mk outcome between =>
          cases outcome with
          | error other =>
              rw [run_bind_of_error answer] at failed
              cases failed
              exact firstFails (congrArg Read.outcome answer)
          | ok middle =>
              rw [run_bind_of_ok answer] at failed
              exact secondFails middle failed

/-! ## Composed readers -/

theorem map (composed : reader.Composed raised) (image : α → β) :
    (image <$> reader).Composed raised := by
  rw [map_eq_pure_bind]
  exact composed.bind fun value => .pure (image value)

theorem choose {choice : Choice} {select : UInt8 → Option α}
    (raises : ∀ byte, select byte = none → raised (.invalidVariant choice byte)) :
    (choose choice select).Composed raised := by
  apply Composed.byte.bind
  intro tag
  cases selected : select tag with
  | some value => exact .pure value
  | none => exact .fail (raises tag selected)

end Composed

end Reader

end OperationForge
