import OperationForge.Proofs.Boundaries
import OperationForge.Proofs.Strictness

/-!
# What input is refused for

Whatever the input, reading an operation comes to a value or to one of few errors: there
is too little input, there are no entries, or a byte, a length or a name cannot stand
where it stands.  A byte is only ever refused where it selects nothing.  The other wire
errors belong to readers and writers that have no part in this, and so do the errors
of texts and keys.
-/

namespace OperationForge

/-! ## Bytes that select nothing -/

/-- Whether the byte selects something where the choice is read. -/
def Choice.selects (choice : Choice) (byte : UInt8) : Bool :=
  match choice with
  | .bool => (Format.flag? byte).isSome
  | .publicKey | .keyHash => (Curve.ofTag? byte).isSome
  | .address => (Address.kindOfTag? byte).isSome
  | .addressPadding => byte = 0
  | .entrypoint => (Entrypoint.announced? byte).isSome
  | .contents => (ContentsKind.ofTag? byte).isSome

/-- A byte selects an entry of a table when it is the tag of one. -/
theorem isSome_find?_tag {α : Type} (table : List α) (tag : α → UInt8) (byte : UInt8) :
    (table.find? fun entry => tag entry = byte).isSome = true ↔ byte ∈ table.map tag := by
  simp only [List.find?_isSome, decide_eq_true_eq, List.mem_map]

/-- The alternatives are all that can be selected. -/
theorem Choice.mem_alternatives_iff (choice : Choice) (byte : UInt8) :
    byte ∈ choice.alternatives ↔ choice.selects byte = true := by
  cases choice with
  | bool =>
      simp only [alternatives, selects, Format.flag?, List.mem_cons]
      split <;> simp_all
  | publicKey | keyHash =>
      have curve := isSome_find?_tag [Curve.ed25519, .secp256k1, .p256] Curve.tag byte
      exact curve.symm
  | address =>
      simp only [alternatives, selects, Address.kindOfTag?, List.mem_cons]
      split <;> simp_all
  | addressPadding => simp [alternatives, selects]
  | entrypoint =>
      have reserved := isSome_find?_tag Entrypoint.reserved Entrypoint.tag byte
      simp only [alternatives, selects, Entrypoint.announced?]
      split
      · next named => simp_all [Entrypoint.tag]
      · next other =>
          rw [Option.isSome_map, reserved]
          simp_all [Entrypoint.reserved, Entrypoint.tag]
  | contents =>
      have kind := isSome_find?_tag
        [ContentsKind.endorsement, .revelation, .transaction, .origination, .delegation]
        ContentsKind.tag byte
      exact kind.symm

/-! ## Errors -/

/-- The wire errors that reading an operation can end with. -/
inductive WireError.OfOperation : WireError → Prop where
  | outOfBounds : OfOperation .outOfBounds
  | unterminatedZarith : OfOperation .unterminatedZarith
  | noContents : OfOperation .noContents
  | invalidUtf8 (fault : Utf8.Fault) : OfOperation (.invalidUtf8 fault)
  | overflowContainer {length : Nat} :
      2 ^ 30 - 1 < length → length < 2 ^ 32 → OfOperation (.overflowContainer length)
  | invalidVariant {choice : Choice} {byte : UInt8} :
      choice.selects byte = false → OfOperation (.invalidVariant choice byte)

theorem WireError.Shortage.ofOperation {error : WireError} (shortage : error.Shortage) :
    error.OfOperation := by
  cases shortage with
  | outOfBounds => exact .outOfBounds
  | unterminatedZarith => exact .unterminatedZarith

theorem WireError.Malformed.ofOperation {error : WireError} (malformed : error.Malformed) :
    error.OfOperation := by
  cases malformed with
  | overflowContainer long small => exact .overflowContainer long small
  | invalidUtf8 fault => exact .invalidUtf8 fault
  | @invalidVariant choice byte other =>
      apply WireError.OfOperation.invalidVariant
      rwa [choice.mem_alternatives_iff, Bool.not_eq_true] at other

theorem Operation.ofOperation_of_decode {input : Bytes} {error : WireError}
    (failed : format.decode input = .error error) : error.OfOperation := by
  rcases error_of_decode failed with shortage | none | malformed
  · exact shortage.ofOperation
  · rw [none]
    exact .noContents
  · exact malformed.ofOperation

namespace SignedOperation

/-- A signed operation is refused for want of a signature, or because of the operation. -/
theorem error_of_decode {input : Bytes} {error : OperationError}
    (failed : decode input = .error error) :
    (input.length < 64 ∧ error = .tooShort input.length) ∨
      ∃ cause, cause.OfOperation ∧ error = .wire cause := by
  rw [decode_eq_bind] at failed
  rcases Except.bind_eq_error_iff.mp failed with failed | ⟨answer, -, impossible⟩
  · rcases error_of_decodeWithInference failed with short | ⟨_, _, cause, -, broken, equal⟩
    · exact .inl short
    · exact .inr ⟨cause, Operation.ofOperation_of_decode broken, equal⟩
  · cases impossible

/-- Reading an operation, signed or not, comes to a value or to an error of a closed set,
on every input.  Tags are looked at before they are taken, entries are read until nothing
is left, and numbers are read byte by byte: so no tag is ever a wrong one, no input is left
over, and no number is malformed or negative.  Texts and keys are not looked at. -/
theorem decode_refusals :
    (∀ input, (∃ operation, Operation.format.decode input = .ok operation) ∨
      ∃ error, error.OfOperation ∧ Operation.format.decode input = .error error) ∧
    (∀ input, (∃ signed, decode input = .ok signed) ∨
      (input.length < 64 ∧ decode input = .error (.tooShort input.length)) ∨
      ∃ error, error.OfOperation ∧ decode input = .error (.wire error)) ∧
    (∀ error : WireError, (∃ expected actual, error = .wrongTag expected actual) ∨
        error = .extraInput ∨ error = .malformedZarith ∨ error = .negativeNatural →
      ∀ input, Operation.format.decode input ≠ .error error ∧
        decode input ≠ .error (.wire error)) ∧
    (∀ error, (∃ cause, error = .base58 cause) ∨ (∃ cause, error = .key cause) ∨
        error = .signatureTypeAmbiguous → ∀ input, decode input ≠ .error error) ∧
    ∀ (choice : Choice) byte, choice.selects byte = true ↔ byte ∈ choice.alternatives := by
  refine ⟨?plain, ?signed, ?wire, ?other, fun choice byte => (choice.mem_alternatives_iff byte).symm⟩
  case plain =>
    intro input
    cases answer : Operation.format.decode input with
    | ok operation => exact .inl ⟨operation, rfl⟩
    | error error => exact .inr ⟨error, Operation.ofOperation_of_decode answer, rfl⟩
  case signed =>
    intro input
    cases answer : decode input with
    | ok signed => exact .inl ⟨signed, rfl⟩
    | error error =>
        right
        rcases error_of_decode answer with ⟨short, equal⟩ | ⟨cause, expected, equal⟩
        · exact .inl ⟨short, by rw [equal]⟩
        · exact .inr ⟨cause, expected, by rw [equal]⟩
  case wire =>
    intro error excluded input
    have unexpected : ¬error.OfOperation := by
      intro expected
      rcases excluded with ⟨_, _, equal⟩ | equal | equal | equal <;> rw [equal] at expected <;>
        cases expected
    constructor
    · intro failed
      exact unexpected (Operation.ofOperation_of_decode failed)
    · intro failed
      rcases error_of_decode failed with ⟨-, impossible⟩ | ⟨cause, expected, equal⟩
      · cases impossible
      · cases equal
        exact unexpected expected
  case other =>
    intro error excluded input failed
    rcases error_of_decode failed with ⟨-, equal⟩ | ⟨cause, -, equal⟩ <;>
      rcases excluded with ⟨_, other⟩ | ⟨_, other⟩ | other <;> rw [equal] at other <;> cases other

/-- A tag of no entry behind a branch, and an input that is too short for a signature. -/
theorem strayTag_refusals :
    let stray := Operation.withdrawal.branch.bytes.toList ++ [0x05]
    Operation.format.decode stray = .error (.invalidVariant .contents 0x05) ∧
      (Choice.contents.selects 0x05 = true ↔ (0x05 : UInt8) ∈ [0, 107, 108, 109, 110]) ∧
      Operation.format.decode stray ≠ .error (.wrongTag 107 0x05) ∧
      decode stray = .error (.tooShort 33) ∧
      decode stray ≠ .error .signatureTypeAmbiguous := by
  intro stray
  rcases decode_refusals with ⟨-, -, wire, other, selected⟩
  have refused : Operation.format.decode stray = .error (.invalidVariant .contents 0x05) := by
    decide +kernel
  have short : decode stray = .error (.tooShort 33) := by decide +kernel
  exact ⟨refused, selected .contents 0x05, (wire _ (.inl ⟨107, 0x05, rfl⟩) stray).1, short,
    other _ (.inr (.inr rfl)) stray⟩

end SignedOperation

end OperationForge
