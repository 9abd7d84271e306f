/-!
# Steps that can fail

A chain of steps succeeds where every step does, and a step that reports its error
under another name succeeds where it did before.
-/

namespace OperationForge

variable {ε ε' α β : Type}

theorem Except.bind_eq_ok_iff {first : Except ε α} {second : α → Except ε β} {value : β} :
    first >>= second = .ok value ↔
      ∃ middle, first = .ok middle ∧ second middle = .ok value := by
  cases first with
  | error error =>
      constructor
      · intro impossible
        cases impossible
      · intro steps
        rcases steps with ⟨middle, impossible, -⟩
        cases impossible
  | ok middle =>
      constructor
      · intro answer
        exact ⟨middle, rfl, answer⟩
      · intro steps
        rcases steps with ⟨other, equal, answer⟩
        cases equal
        exact answer

theorem Except.bind_eq_error_iff {first : Except ε α} {second : α → Except ε β} {error : ε} :
    first >>= second = .error error ↔
      first = .error error ∨ ∃ middle, first = .ok middle ∧ second middle = .error error := by
  cases first with
  | error other =>
      constructor
      · intro failed
        cases failed
        exact .inl rfl
      · rintro (equal | ⟨middle, impossible, -⟩)
        · cases equal
          rfl
        · cases impossible
  | ok middle =>
      constructor
      · intro failed
        exact .inr ⟨middle, rfl, failed⟩
      · rintro (impossible | ⟨other, equal, failed⟩)
        · cases impossible
        · cases equal
          exact failed

@[simp] theorem Except.mapError_eq_ok_iff {rename : ε → ε'} {result : Except ε α} {value : α} :
    result.mapError rename = .ok value ↔ result = .ok value := by
  cases result with
  | error error =>
      constructor <;> intro impossible <;> cases impossible
  | ok answer =>
      constructor <;> intro equal <;> cases equal <;> rfl

end OperationForge
