import OperationForge.Wire.Reader

/-!
# What readers accept

A reader is judged by the byte strings that it takes off the front of its
input.  `Recognizes` says that a reader takes a value exactly where a spelling of
the value stands, whatever follows the spelling.  Readers that are composed of
recognizers recognize the composed spellings, and no spelling of a recognized
value is the beginning of another one.
-/

namespace OperationForge

namespace Reader

variable {α β : Type}

/-- Readers are equal when they answer alike.  The proof that they only move
forward does not tell them apart. -/
theorem ext_run {left right : Reader α}
    (alike : ∀ input, left.run input = right.run input) : left = right := by
  cases left
  cases right
  congr
  funext input
  exact alike input

theorem id_map_run (reader : Reader α) : id <$> reader = reader := by
  apply ext_run
  intro input
  change (reader >>= pure).run input = reader.run input
  rw [run_bind]
  match reader.run input with
  | ⟨.ok _, _⟩ => rfl
  | ⟨.error _, _⟩ => rfl

theorem bind_assoc_run {γ : Type} (first : Reader α) (second : α → Reader β)
    (third : β → Reader γ) :
    first >>= second >>= third = first >>= fun value => second value >>= third := by
  apply ext_run
  intro input
  rw [run_bind, run_bind, run_bind]
  match first.run input with
  | ⟨.ok _, _⟩ => rfl
  | ⟨.error _, _⟩ => rfl

instance : LawfulMonad Reader :=
  LawfulMonad.mk' Reader id_map_run (fun _ _ => ext_run fun _ => rfl) bind_assoc_run

theorem run_bind_of_ok {first : Reader α} {input between : Bytes} {middle : α}
    (answer : first.run input = ⟨.ok middle, between⟩) (second : α → Reader β) :
    (first >>= second).run input = (second middle).run between := by
  rw [run_bind, answer]

theorem run_bind_of_error {first : Reader α} {input between : Bytes} {error : WireError}
    (answer : first.run input = ⟨.error error, between⟩) (second : α → Reader β) :
    (first >>= second).run input = ⟨.error error, between⟩ := by
  rw [run_bind, answer]

/-- A sequence of readers succeeds where both parts do, one after the other. -/
theorem run_bind_eq_ok_iff {first : Reader α} {second : α → Reader β}
    {input rest : Bytes} {value : β} :
    (first >>= second).run input = ⟨.ok value, rest⟩ ↔
      ∃ middle between, first.run input = ⟨.ok middle, between⟩ ∧
        (second middle).run between = ⟨.ok value, rest⟩ := by
  rw [run_bind]
  match first.run input with
  | ⟨.ok middle, between⟩ =>
      constructor
      · intro answer
        exact ⟨middle, between, rfl, answer⟩
      · intro spelled
        rcases spelled with ⟨_, _, firstAnswer, secondAnswer⟩
        cases firstAnswer
        exact secondAnswer
  | ⟨.error _, _⟩ => simp

theorem run_map (image : α → β) (reader : Reader α) (input : Bytes) :
    (image <$> reader).run input =
      ⟨(reader.run input).outcome.map image, (reader.run input).rest⟩ := by
  rw [map_eq_pure_bind, run_bind]
  match reader.run input with
  | ⟨.ok _, _⟩ => rfl
  | ⟨.error _, _⟩ => rfl

section Take

variable {size : Nat} {input : Bytes}

theorem run_take_of_length_le (enough : size ≤ input.length) :
    (take size).run input = ⟨.ok (.ofPrefix size input enough), input.drop size⟩ := by
  simp only [take, enough, ↓reduceDIte]

theorem run_take_of_length_lt (short : input.length < size) :
    (take size).run input = ⟨.error .outOfBounds, input⟩ := by
  simp only [take, Nat.not_le.mpr short, ↓reduceDIte]

theorem run_map_take_of_length_le (image : FixedBytes size → β) (enough : size ≤ input.length) :
    (image <$> take size).run input =
      ⟨.ok (image (.ofPrefix size input enough)), input.drop size⟩ := by
  rw [run_map, run_take_of_length_le enough]
  rfl

theorem run_map_take_of_length_lt (image : FixedBytes size → β) (short : input.length < size) :
    (image <$> take size).run input = ⟨.error .outOfBounds, input⟩ := by
  rw [run_map, run_take_of_length_lt short]
  rfl

end Take

/-- The reader takes a value exactly where one of its spellings stands. -/
def Recognizes (reader : Reader α) (spells : α → Bytes → Prop) : Prop :=
  ∀ input value rest, reader.run input = ⟨.ok value, rest⟩ ↔
    ∃ used, spells value used ∧ input = used ++ rest

namespace Recognizes

variable {reader : Reader α} {spells : α → Bytes → Prop}

/-- A spelling is taken whole, and what follows it is left. -/
theorem run_append (recognizes : reader.Recognizes spells) {value : α} {used : Bytes}
    (spelled : spells value used) (rest : Bytes) :
    reader.run (used ++ rest) = ⟨.ok value, rest⟩ :=
  (recognizes _ _ _).mpr ⟨used, spelled, rfl⟩

/-- A value that takes up the whole input is one that the input spells. -/
theorem exactly_eq_ok_iff (recognizes : reader.Recognizes spells) (input : Bytes) (value : α) :
    reader.exactly input = .ok value ↔ spells value input := by
  rw [Reader.exactly_eq_ok_iff, recognizes]
  constructor
  · intro spelled
    rcases spelled with ⟨used, spelled, rfl⟩
    rwa [List.append_nil]
  · intro spelled
    exact ⟨input, spelled, (List.append_nil input).symm⟩

/-- Spellings mark their own end: at the front of one byte string there is only
one spelling, and only of one value. -/
theorem unique (recognizes : reader.Recognizes spells) {left right : α}
    {leftUsed leftRest rightUsed rightRest : Bytes}
    (leftSpelled : spells left leftUsed) (rightSpelled : spells right rightUsed)
    (same : leftUsed ++ leftRest = rightUsed ++ rightRest) :
    left = right ∧ leftUsed = rightUsed ∧ leftRest = rightRest := by
  have leftRun := recognizes.run_append leftSpelled leftRest
  have rightRun := recognizes.run_append rightSpelled rightRest
  rw [same, rightRun] at leftRun
  obtain ⟨value, rest⟩ : right = left ∧ rightRest = leftRest := by simpa using leftRun
  exact ⟨value.symm, List.append_cancel_right (rest ▸ same), rest.symm⟩

/-- Only the meaning of a description of spellings matters. -/
theorem congr {others : α → Bytes → Prop} (recognizes : reader.Recognizes spells)
    (equivalent : ∀ value used, spells value used ↔ others value used) :
    reader.Recognizes others := by
  intro input value rest
  simp only [recognizes input value rest, equivalent]

theorem pure (value : α) :
    (pure value : Reader α).Recognizes fun read used => read = value ∧ used = [] := by
  intro input read rest
  constructor
  · intro answer
    obtain ⟨rfl, rfl⟩ : value = read ∧ input = rest := by simpa using answer
    exact ⟨[], ⟨rfl, rfl⟩, rfl⟩
  · intro spelled
    rcases spelled with ⟨used, ⟨rfl, rfl⟩, rfl⟩
    rfl

theorem bind {second : α → Reader β} {after : α → β → Bytes → Prop}
    (recognizes : reader.Recognizes spells)
    (continued : ∀ value front, spells value front → (second value).Recognizes (after value)) :
    (reader >>= second).Recognizes fun value used =>
      ∃ middle front back,
        spells middle front ∧ after middle value back ∧ used = front ++ back := by
  intro input value rest
  rw [run_bind_eq_ok_iff]
  constructor
  · intro spelled
    rcases spelled with ⟨middle, between, firstRun, secondRun⟩
    rcases (recognizes _ _ _).mp firstRun with ⟨front, frontSpelled, rfl⟩
    rcases (continued middle front frontSpelled _ _ _).mp secondRun with ⟨back, backSpelled, rfl⟩
    exact ⟨front ++ back, ⟨middle, front, back, frontSpelled, backSpelled, rfl⟩,
      (List.append_assoc front back rest).symm⟩
  · intro spelled
    rcases spelled with ⟨used, ⟨middle, front, back, frontSpelled, backSpelled, rfl⟩, rfl⟩
    refine ⟨middle, back ++ rest, ?_, (continued middle front frontSpelled).run_append backSpelled rest⟩
    rw [List.append_assoc]
    exact recognizes.run_append frontSpelled (back ++ rest)

theorem map (recognizes : reader.Recognizes spells) (image : α → β) :
    (image <$> reader).Recognizes fun value used =>
      ∃ source, spells source used ∧ image source = value := by
  rw [map_eq_pure_bind]
  apply (recognizes.bind fun source _ _ => Recognizes.pure (image source)).congr
  intro value used
  constructor
  · intro spelled
    rcases spelled with ⟨source, front, back, spelled, ⟨rfl, rfl⟩, rfl⟩
    exact ⟨source, by rwa [List.append_nil], rfl⟩
  · intro spelled
    rcases spelled with ⟨source, spelled, rfl⟩
    exact ⟨source, used, [], spelled, ⟨rfl, rfl⟩, (List.append_nil used).symm⟩

/-- A reader that always fails accepts nothing. -/
theorem fail (error : WireError) :
    (fail error : Reader α).Recognizes fun _ _ => False := by
  intro input value rest
  simp

theorem take (size : Nat) :
    (take size).Recognizes fun block used => used = block.toList := by
  intro input block rest
  constructor
  · intro answer
    unfold Reader.take at answer
    dsimp only at answer
    split at answer
    · next enough =>
        obtain ⟨rfl, rfl⟩ : FixedBytes.ofPrefix size input enough = block ∧
            input.drop size = rest := by
          simpa using answer
        exact ⟨input.take size, rfl, (List.take_append_drop size input).symm⟩
    · simp at answer
  · intro spelled
    rcases spelled with ⟨used, rfl, rfl⟩
    exact run_take_append block rest

theorem byte : byte.Recognizes fun next used => used = [next] := by
  intro input next rest
  cases input with
  | nil => simp
  | cons head tail => simp

theorem takeList (size : Nat) :
    (takeList size).Recognizes fun bytes used => used = bytes ∧ bytes.length = size := by
  intro input bytes rest
  constructor
  · intro answer
    unfold Reader.takeList at answer
    dsimp only at answer
    split at answer
    · simp at answer
    · next enough =>
        obtain ⟨rfl, rfl⟩ : input.take size = bytes ∧ input.drop size = rest := by
          simpa using answer
        exact ⟨input.take size, ⟨rfl, List.length_take_of_le (Nat.le_of_not_lt enough)⟩,
          (List.take_append_drop size input).symm⟩
  · intro spelled
    rcases spelled with ⟨used, ⟨rfl, rfl⟩, rfl⟩
    exact run_takeList_append used rest

theorem choose (choice : Choice) (select : UInt8 → Option α) :
    (choose choice select).Recognizes fun value used =>
      ∃ tag, select tag = some value ∧ used = [tag] := by
  intro input value rest
  cases input with
  | nil =>
      constructor
      · intro answer
        cases answer
      · intro spelled
        rcases spelled with ⟨used, ⟨tag, _, rfl⟩, split⟩
        cases split
  | cons tag tail =>
      cases selected : select tag with
      | some found =>
          rw [run_choose_of_some selected]
          constructor
          · intro answer
            obtain ⟨rfl, rfl⟩ : found = value ∧ tail = rest := by simpa using answer
            exact ⟨[tag], ⟨tag, selected, rfl⟩, rfl⟩
          · intro spelled
            rcases spelled with ⟨used, ⟨other, otherSelected, rfl⟩, split⟩
            obtain ⟨rfl, rfl⟩ : tag = other ∧ tail = rest := by simpa using split
            rw [Option.some.inj (selected.symm.trans otherSelected)]
      | none =>
          rw [run_choose_of_none selected]
          constructor
          · intro answer
            simp at answer
          · intro spelled
            rcases spelled with ⟨used, ⟨other, otherSelected, rfl⟩, split⟩
            obtain ⟨rfl, rfl⟩ : tag = other ∧ tail = rest := by simpa using split
            rw [selected] at otherSelected
            cases otherSelected

theorem check (condition : Prop) [Decidable condition] (error : WireError) :
    (if condition then Pure.pure () else Reader.fail error : Reader Unit).Recognizes
      fun _ used => condition ∧ used = [] := by
  split
  · next holds => exact (Recognizes.pure ()).congr (by simp [holds])
  · next broken => exact (Recognizes.fail error).congr (by simp [broken])

theorem expectTag (expected : UInt8) :
    (expectTag expected).Recognizes fun _ used => used = [expected] := by
  apply (Recognizes.byte.bind fun actual _ _ =>
    Recognizes.check (actual = expected) (.wrongTag expected actual)).congr
  intro value used
  constructor
  · intro spelled
    rcases spelled with ⟨actual, front, back, rfl, ⟨rfl, rfl⟩, rfl⟩
    rfl
  · rintro rfl
    exact ⟨expected, [expected], [], rfl, ⟨rfl, rfl⟩, rfl⟩

end Recognizes

end Reader

end OperationForge
