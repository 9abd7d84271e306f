import OperationForge.Wire.Error

/-!
# Output

What writing a value adds to a buffer.  Writing goes on until a part fails; the bytes written before
the failure stay in the buffer.  Outputs are composed with `++`, which keeps to that rule.
-/

namespace OperationForge

/-- The bytes that were written, and what stopped the writing if something did. -/
structure Output where
  bytes : Bytes
  error? : Option WireError
  deriving DecidableEq, Repr

namespace Output

/-- Writes the bytes. -/
def wrote (bytes : Bytes) : Output := ⟨bytes, none⟩

/-- Stops before writing anything. -/
def stopped (error : WireError) : Output := ⟨[], some error⟩

/-- The first output, and unless it stopped the second one after it. -/
protected def append (first second : Output) : Output :=
  match first.error? with
  | none => ⟨first.bytes ++ second.bytes, second.error?⟩
  | some _ => first

instance : Append Output := ⟨Output.append⟩

/-- The output of every item in order, up to the first one that stops. -/
def concat (outputs : List Output) : Output :=
  outputs.foldr (· ++ ·) (wrote [])

/-- All bytes of an output that was not stopped. -/
def toExcept (output : Output) : Except WireError Bytes :=
  match output.error? with
  | none => .ok output.bytes
  | some error => .error error

/-- The buffer after the output, whether it was stopped or not. -/
def appendTo (buffer : Bytes) (output : Output) : Bytes :=
  buffer ++ output.bytes

@[simp] theorem wrote_append_wrote (first second : Bytes) :
    wrote first ++ wrote second = wrote (first ++ second) :=
  rfl

@[simp] theorem stopped_append (error : WireError) (second : Output) :
    stopped error ++ second = stopped error :=
  rfl

@[simp] theorem toExcept_wrote (bytes : Bytes) : (wrote bytes).toExcept = .ok bytes :=
  rfl

@[simp] theorem toExcept_stopped (error : WireError) : (stopped error).toExcept = .error error :=
  rfl

protected theorem append_assoc (first second third : Output) :
    first ++ second ++ third = first ++ (second ++ third) := by
  obtain ⟨bytes₁, _ | error₁⟩ := first
  · obtain ⟨bytes₂, _ | error₂⟩ := second
    · exact congrArg (Output.mk · third.error?) (List.append_assoc ..)
    · rfl
  · rfl

/-- A sequence of outputs is complete when both of its parts are. -/
theorem append_eq_wrote_iff (first second : Output) (bytes : Bytes) :
    first ++ second = wrote bytes ↔
      ∃ front back, first = wrote front ∧ second = wrote back ∧ bytes = front ++ back := by
  constructor
  · intro complete
    obtain ⟨front, _ | error⟩ := first
    · obtain ⟨back, _ | error⟩ := second
      · exact ⟨front, back, rfl, rfl, (congrArg Output.bytes complete).symm⟩
      · cases congrArg Output.error? complete
    · cases congrArg Output.error? complete
  · rintro ⟨front, back, rfl, rfl, rfl⟩
    rfl

@[simp] theorem concat_cons (output : Output) (outputs : List Output) :
    concat (output :: outputs) = output ++ concat outputs :=
  rfl

theorem toExcept_eq_ok_iff (output : Output) (bytes : Bytes) :
    output.toExcept = .ok bytes ↔ output = wrote bytes := by
  obtain ⟨written, _ | error⟩ := output <;> simp [toExcept, wrote]

end Output

end OperationForge
