import OperationForge.Proofs.Strictness
import OperationForge.Proofs.Truncation

/-!
# Unsigned operations read as signed ones

Nothing marks an operation as unsigned.  Reading takes the last 64 bytes for a
signature whatever they are, so an unsigned operation is read as a signed one exactly
if a cut there falls between two of its entries.  Then the entries behind the cut are
lost, and their bytes come out as the signature.  With a cut anywhere else what is left
in front is an operation that is cut short.
-/

namespace OperationForge

namespace Contents

/-- Every entry is encoded as its piece, in order. -/
abbrev AllEncode (entries : List Contents) (pieces : List Bytes) : Prop :=
  List.Forall₂ (fun entry piece => format.encode entry = .ok piece) entries pieces

theorem exists_allEncode {entries : List Contents} (canWrite : ∀ entry ∈ entries, entry.Writable) :
    ∃ pieces, AllEncode entries pieces ∧
      pieces.flatten = Layout.shortest (entries.flatMap layout) := by
  induction entries with
  | nil => exact ⟨[], .nil, rfl⟩
  | cons entry entries ih =>
      rcases List.forall_mem_cons.mp canWrite with ⟨first, others⟩
      rcases ih others with ⟨pieces, allEncode, flat⟩
      have encoded := (format_follows.encode_eq_ok_iff entry _).mpr ⟨first, rfl⟩
      refine ⟨_, .cons encoded allEncode, ?_⟩
      rw [List.flatten_cons, flat, List.flatMap_cons, Layout.shortest_append]

theorem AllEncode.allDecode {entries : List Contents} {pieces : List Bytes}
    (allEncode : AllEncode entries pieces) : AllDecode pieces entries :=
  (allEncode.imp fun _ _ encoded => format_follows.decode_of_encode encoded).flip

end Contents

namespace Operation

/-- An operation is encoded as its branch and then the pieces that its entries are
encoded as. -/
theorem exists_allEncode_of_encode {operation : Operation} {bytes : Bytes}
    (encoded : format.encode operation = .ok bytes) :
    ∃ pieces, Contents.AllEncode operation.contents pieces ∧
      bytes = operation.branch.bytes.toList ++ pieces.flatten := by
  rcases (encode_eq_ok_iff operation bytes).mp encoded with ⟨canWrite, rfl⟩
  rcases Contents.exists_allEncode canWrite with ⟨pieces, allEncode, flat⟩
  refine ⟨pieces, allEncode, ?_⟩
  rw [flat, layout, Layout.shortest_append]
  simp [Identifier.layout, Layout.shortest]

/-- There are entries behind the first `count` ones that take up as many bytes as a
signature, and there are some in front of these as well. -/
structure EndsLikeSigned (pieces : List Bytes) (count : Nat) : Prop where
  front : 1 ≤ count
  back : count < pieces.length
  length_eq : (pieces.drop count).flatten.length = 64

variable {input : Bytes} {operation : Operation} {pieces : List Bytes}

/-- An input falls apart where its first `count` entries end. -/
theorem Pieces.eq_append (divided : Pieces input operation pieces) (count : Nat) :
    ∃ front : Bytes, front.length = boundary pieces count ∧
      input = front ++ (pieces.drop count).flatten := by
  refine ⟨operation.branch.bytes.toList ++ (pieces.take count).flatten, ?_, ?_⟩
  · rw [List.length_append, operation.branch.bytes.length_toList, boundary]
  · rw [List.append_assoc, ← List.flatten_append, List.take_append_drop, divided.input_eq]

/-- A cut that leaves no whole entries, or not just whole entries, leaves too little
input or no entry. -/
theorem Pieces.error_of_take (divided : Pieces input operation pieces) {cut : Nat}
    (within : cut ≤ input.length)
    (apart : ∀ count, 1 ≤ count → count ≤ pieces.length → cut ≠ boundary pieces count) :
    ∃ error, (error.Shortage ∨ error = .noContents) ∧
      format.decode (input.take cut) = .error error := by
  rcases Nat.lt_trichotomy cut 32 with short | rfl | behind
  · refine ⟨.outOfBounds, .inl .outOfBounds, decode_of_length_lt ?_⟩
    rw [List.length_take_of_le within]
    exact short
  · refine ⟨.noContents, .inr rfl, (divided.decode_take 0).trans ?_⟩
    rw [List.take_zero, scanContents]
    rfl
  · have elsewhere : ∀ count ≤ pieces.length, cut ≠ boundary pieces count := by
      intro count least same
      cases count with
      | zero => exact absurd same (Nat.ne_of_gt behind)
      | succ count => exact apart _ (Nat.succ_pos count) least same
    rcases divided.shortage_of_take behind within elsewhere with ⟨error, shortage, failed⟩
    exact ⟨error, .inl shortage, failed⟩

end Operation

namespace SignedOperation

variable {input : Bytes} {operation : Operation} {pieces : List Bytes}

/-- The entries in front of the cut are the operation, and those behind it the signature. -/
theorem decode_of_endsLikeSigned (divided : Operation.Pieces input operation pieces) {count : Nat}
    (ends : Operation.EndsLikeSigned pieces count) :
    ∃ signed, decode input = .ok signed ∧
      signed.operation.branch = operation.branch ∧
      signed.operation.contents = operation.contents.take count ∧
      signed.signature.bytes.toList = (pieces.drop count).flatten := by
  rcases divided.eq_append count with ⟨front, length, equal⟩
  rcases divided.decode_take_boundary ends.front with ⟨shorter, decoded, branch, contents⟩
  rw [equal, List.take_left' length] at decoded
  have drawn := Inference.drawn_ofContents shorter.contents
  have inferred := (decodeWithInference_eq_ok_iff input ⟨shorter, ⟨_, ⟨_, ends.length_eq⟩⟩⟩ _).mpr
    ⟨front, equal, decoded, drawn, rfl⟩
  exact ⟨_, (decode_eq_ok_iff _ _).mpr ⟨_, inferred⟩, branch, contents, rfl⟩

theorem decode_of_length_lt (short : input.length < 64) :
    decode input = .error (.tooShort input.length) := by
  rw [decode_eq_bind, decodeWithInference, DecodeOptions.decodeInferring_of_length_lt _ short]
  rfl

/-- Without a cut between entries there is no operation in front of the last 64 bytes. -/
theorem error_of_not_endsLikeSigned (divided : Operation.Pieces input operation pieces)
    (enough : 64 ≤ input.length) (never : ¬∃ count, Operation.EndsLikeSigned pieces count) :
    ∃ error, (error.Shortage ∨ error = .noContents) ∧ decode input = .error (.wire error) := by
  rcases exists_signature enough with ⟨body, signature, split⟩
  have cut : input.length = body.length + 64 := by simp [split]
  -- Behind a cut between entries there would be entries as long as a signature.
  have apart : ∀ count, 1 ≤ count → count ≤ pieces.length →
      body.length ≠ Operation.boundary pieces count := by
    intro count front within same
    rcases divided.eq_append count with ⟨behind, length, equal⟩
    have whole := congrArg List.length equal
    rw [List.length_append, length, ← same, cut, Nat.add_left_cancel_iff] at whole
    have back : count ≠ pieces.length := by
      rintro rfl
      simp at whole
    exact never ⟨count, front, Nat.lt_of_le_of_ne within back, whole.symm⟩
  have within : body.length ≤ input.length := by omega
  rcases divided.error_of_take within apart with ⟨error, allowed, failed⟩
  rw [split, List.take_left] at failed
  refine ⟨error, allowed, ?_⟩
  rw [decode_eq_bind, decodeWithInference, split, DecodeOptions.decodeInferring_of_error _ failed]
  rfl

/-- The bytes of an unsigned operation are read as a signed operation exactly if its
last entries, but not all of its entries, take up as many bytes as a signature.  These
bytes are then the signature, and the other entries the operation.  In all other cases
there are too few bytes for a signature, or what is left in front of it has no entries
or breaks off within one. -/
theorem decode_unsigned (operation : Operation) (bytes : Bytes)
    (encoded : Operation.format.encode operation = .ok bytes) :
    ∃ pieces, Contents.AllEncode operation.contents pieces ∧
      bytes = operation.branch.bytes.toList ++ pieces.flatten ∧
      ((∃ signed, decode bytes = .ok signed) ↔
        ∃ count, Operation.EndsLikeSigned pieces count) ∧
      (∀ count, Operation.EndsLikeSigned pieces count →
        ∃ signed, decode bytes = .ok signed ∧
          signed.operation.branch = operation.branch ∧
          signed.operation.contents = operation.contents.take count ∧
          signed.signature.bytes.toList = (pieces.drop count).flatten) ∧
      (bytes.length < 64 → decode bytes = .error (.tooShort bytes.length)) ∧
      (64 ≤ bytes.length → (¬∃ count, Operation.EndsLikeSigned pieces count) →
        decode bytes = .error (.wire .outOfBounds) ∨
          decode bytes = .error (.wire .noContents) ∨
          decode bytes = .error (.wire .unterminatedZarith)) := by
  rcases Operation.exists_allEncode_of_encode encoded with ⟨pieces, allEncode, equal⟩
  have divided : Operation.Pieces bytes operation pieces := ⟨equal, allEncode.allDecode⟩
  refine ⟨pieces, allEncode, equal, ?_, ?_, decode_of_length_lt, ?_⟩
  · constructor
    · intro accepted
      rcases accepted with ⟨signed, accepted⟩
      by_contra never
      by_cases enough : 64 ≤ bytes.length
      · rcases error_of_not_endsLikeSigned divided enough never with ⟨_, -, failed⟩
        cases accepted.symm.trans failed
      · cases accepted.symm.trans (decode_of_length_lt (Nat.lt_of_not_le enough))
    · intro split
      rcases split with ⟨count, ends⟩
      rcases decode_of_endsLikeSigned divided ends with ⟨signed, accepted, -⟩
      exact ⟨signed, accepted⟩
  · intro count ends
    exact decode_of_endsLikeSigned divided ends
  · intro enough never
    rcases error_of_not_endsLikeSigned divided enough never with ⟨error, allowed, failed⟩
    rcases allowed with shortage | rfl
    · cases shortage with
      | outOfBounds => exact .inl failed
      | unterminatedZarith => exact .inr (.inr failed)
    · exact .inr (.inl failed)

/-- The withdrawal with a revelation and an endorsement behind it, which together take
up as many bytes as a signature. -/
def lookalike : Operation where
  branch := Operation.withdrawal.branch
  contents :=
    let manager : Manager := ⟨⟨.ed25519, ⟨List.replicate 20 0x12, rfl⟩⟩, 1, 2, 3, 4⟩
    Operation.withdrawal.contents ++
      [ .revelation ⟨manager, ⟨.ed25519, ⟨List.replicate 32 0x13, rfl⟩⟩⟩,
        .endorsement ⟨9⟩ ]
  contents_ne_nil := by simp

/-- Without a signature the lookalike is read as a signed withdrawal. -/
theorem lookalike_decode :
    ∃ bytes signed, Operation.format.encode lookalike = .ok bytes ∧
      decode bytes = .ok signed ∧ signed.operation = .withdrawal := by
  have encoded : Operation.format.encode lookalike = .ok lookalike.layout.shortest :=
    Operation.encode_eq_shortest (by decide)
  rcases decode_unsigned lookalike _ encoded with ⟨pieces, allEncode, -, -, accepted, -⟩
  have length_eq : (pieces.drop 1).flatten.length = 64 := by
    rcases allEncode with _ | ⟨-, _ | ⟨revealed, _ | ⟨endorsed, _ | _⟩⟩⟩
    rcases (Contents.format_follows.encode_eq_ok_iff _ _).mp revealed with ⟨-, rfl⟩
    rcases (Contents.format_follows.encode_eq_ok_iff _ _).mp endorsed with ⟨-, rfl⟩
    change List.length (List.flatten [_, _]) = 64
    decide +kernel
  have back : 1 < pieces.length := by
    rw [← allEncode.length_eq]
    decide
  have ends : Operation.EndsLikeSigned pieces 1 := ⟨Nat.le_refl 1, back, length_eq⟩
  rcases accepted 1 ends with ⟨signed, decoded, branch, contents, -⟩
  exact ⟨_, signed, encoded, decoded, Operation.ext branch contents⟩

end SignedOperation

end OperationForge
