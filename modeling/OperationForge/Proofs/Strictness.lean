import OperationForge.Proofs.SignedOperations

/-!
# Strict reading

Default reading fails where there are too few bytes for a signature, or where those in
front of the signature are no operation.  Strict reading is default reading and then
one more look at the inference, so it fails in the same way wherever default reading
does, and besides on operations that consist of endorsements.
-/

namespace OperationForge

/-- Entries come from the accounts of keys, never from those of contracts. -/
theorem Contents.implicit_of_mem_sources {contents : List Contents} {source : Address}
    (member : source ∈ contents.filterMap Contents.source?) :
    ∃ owner, source = .implicit owner := by
  rcases List.mem_filterMap.mp member with ⟨entry, -, found⟩
  rcases Option.map_eq_some_iff.mp found with ⟨manager, -, equal⟩
  exact ⟨manager.source, equal.symm⟩

theorem Inference.Drawn.eq_fallback_iff {contents : List Contents} {inference : Inference}
    (drawn : Drawn contents inference) :
    inference = .fallback ↔ ∀ entry ∈ contents, entry.kind = .endorsement := by
  cases drawn with
  | @fromSource front back entry manager earlier found =>
      constructor
      · intro impossible
        cases impossible
      · intro every
        have sourceless := entry.manager?_eq_none_iff.mpr (every entry (by simp))
        rw [sourceless] at found
        cases found
  | fallback every =>
      constructor
      · intro _
        exact every
      · intro _
        rfl

namespace DecodeOptions

/-- What strict reading says to an answer of default reading. -/
def confirm (answer : SignedOperation × Inference) :
    Except OperationError (SignedOperation × Inference) :=
  if answer.2 = .fallback then .error .signatureTypeAmbiguous else .ok answer

/-- Strict reading is default reading, confirmed. -/
theorem decodeInferring_strict (input : Bytes) :
    decodeInferring { strict := true } input =
      SignedOperation.decodeWithInference input >>= confirm := by
  rw [SignedOperation.decodeWithInference]
  by_cases enough : 64 ≤ input.length
  · rcases SignedOperation.exists_signature enough with ⟨body, signature, rfl⟩
    cases decoded : Operation.format.decode body with
    | error error =>
        rw [decodeInferring_of_error _ decoded, decodeInferring_of_error _ decoded]
        rfl
    | ok operation =>
        rw [decodeInferring_append, decodeInferring_append]
        simp only [decodeOperation, decoded]
        cases drawn : Inference.ofOperation operation <;> simp [confirm] <;> rfl
  · have short := Nat.lt_of_not_le enough
    rw [decodeInferring_of_length_lt _ short, decodeInferring_of_length_lt _ short]
    rfl

theorem decodeSigned_strict (input : Bytes) :
    decodeSigned { strict := true } input =
      SignedOperation.decodeWithInference input >>= fun answer => do
        let (signed, _) ← confirm answer
        return signed := by
  rw [decodeSigned, decodeInferring_strict, bind_assoc]

end DecodeOptions

namespace SignedOperation

variable {input : Bytes}

/-- Default reading fails for want of bytes or because of the operation. -/
theorem error_of_decodeWithInference {error : OperationError}
    (failed : decodeWithInference input = .error error) :
    (input.length < 64 ∧ error = .tooShort input.length) ∨
      ∃ (body : Bytes) (signature : FixedBytes 64) (cause : WireError),
        input = body ++ signature.toList ∧
        Operation.format.decode body = .error cause ∧ error = .wire cause := by
  by_cases enough : 64 ≤ input.length
  · right
    rcases exists_signature enough with ⟨body, signature, rfl⟩
    refine ⟨body, signature, ?_⟩
    cases decoded : Operation.format.decode body with
    | error cause =>
        rw [decodeWithInference, DecodeOptions.decodeInferring_of_error _ decoded] at failed
        cases failed
        exact ⟨cause, rfl, rfl, rfl⟩
    | ok operation =>
        have drawn := Inference.drawn_ofContents operation.contents
        have answer := (decodeWithInference_eq_ok_iff _ ⟨operation, ⟨_, signature⟩⟩ _).mpr
          ⟨body, rfl, decoded, drawn, rfl⟩
        rw [answer] at failed
        cases failed
  · left
    have short := Nat.lt_of_not_le enough
    rw [decodeWithInference, DecodeOptions.decodeInferring_of_length_lt _ short] at failed
    cases failed
    exact ⟨short, rfl⟩

theorem decodeWithInference_ne_ambiguous (input : Bytes) :
    decodeWithInference input ≠ .error .signatureTypeAmbiguous := by
  intro failed
  rcases error_of_decodeWithInference failed with ⟨-, impossible⟩ | ⟨_, _, _, -, -, impossible⟩ <;>
    cases impossible

theorem decode_eq_bind (input : Bytes) :
    decode input = decodeWithInference input >>= fun answer => return answer.1 :=
  rfl

theorem decode_ne_ambiguous (input : Bytes) : decode input ≠ .error .signatureTypeAmbiguous := by
  intro failed
  rcases Except.bind_eq_error_iff.mp failed with failed | ⟨answer, -, impossible⟩
  · exact decodeWithInference_ne_ambiguous input failed
  · cases impossible

/-- Strict reading differs from default reading where that falls back. -/
theorem decodeSigned_strict_ne_iff (input : Bytes) :
    DecodeOptions.decodeSigned { strict := true } input ≠ decode input ↔
      ∃ signed, decodeWithInference input = .ok (signed, .fallback) := by
  rw [DecodeOptions.decodeSigned_strict, decode_eq_bind]
  cases decodeWithInference input with
  | error error =>
      constructor
      · intro differ
        exact absurd rfl differ
      · rintro ⟨_, impossible⟩
        cases impossible
  | ok answer =>
      rcases answer with ⟨signed, inference⟩
      cases inference with
      | fromSource curve =>
          constructor
          · intro differ
            exact absurd rfl differ
          · rintro ⟨_, impossible⟩
            cases impossible
      | fallback =>
          constructor
          · intro _
            exact ⟨signed, rfl⟩
          · intro _ same
            cases same

/-- Strict reading refuses the operations for which default reading falls back, which
are those that consist of endorsements, and nothing else.  Where an entry has a source
the two agree on the label, and on every other input they fail alike.  No source is the
account of a contract. -/
theorem strict_refuses_fallback (input : Bytes) :
    (∀ signed curve, decodeWithInference input = .ok (signed, .fromSource curve) →
      DecodeOptions.decodeSigned { strict := true } input = .ok signed ∧
        signed.signature.kind = .onCurve curve ∧
        Inference.Drawn signed.operation.contents (.fromSource curve)) ∧
    (∀ signed, decodeWithInference input = .ok (signed, .fallback) →
      DecodeOptions.decodeSigned { strict := true } input = .error .signatureTypeAmbiguous) ∧
    (∀ signed inference, decodeWithInference input = .ok (signed, inference) →
      (inference = .fallback ↔ ∀ entry ∈ signed.operation.contents, entry.kind = .endorsement) ∧
      ∀ source ∈ signed.operation.contents.filterMap Contents.source?,
        ∃ owner, source = .implicit owner) ∧
    (∀ error, decodeWithInference input = .error error →
      DecodeOptions.decodeSigned { strict := true } input = .error error) ∧
    (DecodeOptions.decodeSigned { strict := true } input ≠ decode input ↔
      ∃ signed, decodeWithInference input = .ok (signed, .fallback)) ∧
    decodeWithInference input ≠ .error .signatureTypeAmbiguous ∧
    decode input ≠ .error .signatureTypeAmbiguous := by
  refine ⟨?_, ?_, ?_, ?_, decodeSigned_strict_ne_iff input, decodeWithInference_ne_ambiguous input,
    decode_ne_ambiguous input⟩
  · intro signed curve inferred
    rcases (decodeWithInference_eq_ok_iff _ _ _).mp inferred with ⟨_, -, -, drawn, labelled⟩
    refine ⟨?_, labelled, drawn⟩
    rw [DecodeOptions.decodeSigned_strict, inferred]
    rfl
  · intro signed inferred
    rw [DecodeOptions.decodeSigned_strict, inferred]
    rfl
  · intro signed inference inferred
    rcases (decodeWithInference_eq_ok_iff _ _ _).mp inferred with ⟨_, -, -, drawn, -⟩
    exact ⟨drawn.eq_fallback_iff, fun _ member => Contents.implicit_of_mem_sources member⟩
  · intro error failed
    rw [DecodeOptions.decodeSigned_strict, failed]
    rfl

/-- An endorsement and some bytes in place of a signature. -/
def signedEndorsement : SignedOperation :=
  ⟨⟨Operation.withdrawal.branch, [.endorsement ⟨9⟩], List.cons_ne_nil _ _⟩,
    .generic, signedWithdrawal.signature.bytes⟩

/-- Both kinds of reading accept the withdrawal, and one of them the endorsement. -/
theorem signedEndorsement_strict :
    ∃ endorsed,
      signedEndorsement.encode = .ok endorsed ∧
      decodeWithInference endorsed = .ok (signedEndorsement, .fallback) ∧
      DecodeOptions.decodeSigned { strict := true } endorsed = .error .signatureTypeAmbiguous ∧
      DecodeOptions.decodeSigned { strict := true } paddedSignedWithdrawal =
        .ok signedWithdrawal := by
  have fallen : decodeWithInference (signedEndorsement.operation.layout.shortest ++
      signedEndorsement.signature.bytes.toList) = .ok (signedEndorsement, .fallback) := by
    decide +kernel
  have sourced : decodeWithInference paddedSignedWithdrawal =
      .ok (signedWithdrawal, .fromSource .ed25519) := by decide +kernel
  have encoded := (encode_eq_ok_iff signedEndorsement _).mpr
    ⟨_, Operation.encode_eq_shortest (by decide), rfl⟩
  exact ⟨_, encoded, fallen, (strict_refuses_fallback _).2.1 _ fallen,
    ((strict_refuses_fallback _).1 _ _ sourced).1⟩

end SignedOperation

end OperationForge
