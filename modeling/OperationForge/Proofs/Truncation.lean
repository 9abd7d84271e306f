import OperationForge.Proofs.Boundaries

/-!
# Operations cut short

An accepted input may lose its end.  Where the cut falls between two entries the rest
is the operation with the entries in front of the cut.  Everywhere else something has
begun and not ended, and reading says that there is too little input, or none where
the first entry should be.  No cut makes another operation or a malformed one.
-/

namespace OperationForge

/-- A part of an entry is too little input, wherever the cut falls. -/
theorem Contents.starved_of_take {piece : Bytes} {entry : Contents} {cut : Nat}
    (decoded : format.decode piece = .ok entry) (inside : cut < piece.length) :
    (read.run (piece.take cut)).Starved :=
  incremental_read.starved_of_take (run_read_append decoded []) inside

namespace Operation

/-- Where the first `count` entries end, counted in bytes from the front of the branch. -/
def boundary (pieces : List Bytes) (count : Nat) : Nat :=
  32 + (pieces.take count).flatten.length

variable {pieces : List Bytes} {entries : List Contents}

theorem boundary_succ {count : Nat} (inside : count < pieces.length) :
    boundary pieces (count + 1) = boundary pieces count + pieces[count].length := by
  rw [boundary, boundary, List.take_succ_eq_append_getElem inside, List.flatten_append,
    List.length_append, List.flatten_singleton, Nat.add_assoc]

theorem boundary_lt (allDecode : Contents.AllDecode pieces entries) {fewer count : Nat}
    (less : fewer < count) (within : count ≤ pieces.length) :
    boundary pieces fewer < boundary pieces count := by
  induction less with
  | refl =>
      have inside : fewer < entries.length := allDecode.length_eq ▸ within
      have decoded := allDecode.get within inside
      rw [boundary_succ within]
      exact Nat.lt_add_of_pos_right (List.length_pos_of_ne_nil
        (Contents.AllDecode.piece_ne_nil decoded))
  | step _ ih =>
      rw [boundary_succ within]
      exact Nat.lt_add_right _ (ih (Nat.le_of_succ_le within))

theorem Pieces.boundary_length {input : Bytes} {operation : Operation}
    (divided : Pieces input operation pieces) : boundary pieces pieces.length = input.length := by
  rw [divided.input_eq, boundary, List.take_length, List.length_append,
    operation.branch.bytes.length_toList]

/-! ## Entries cut short -/

theorem scanContents_take_of_boundary (allDecode : Contents.AllDecode pieces entries)
    (count : Nat) :
    scanContents (pieces.flatten.take (pieces.take count).flatten.length) =
      ⟨.ok (entries.take count), []⟩ := by
  have halves : pieces.flatten = (pieces.take count).flatten ++ (pieces.drop count).flatten := by
    rw [← List.flatten_append, List.take_append_drop]
  have whole : Contents.AllDecode (pieces.take count) (entries.take count) :=
    List.forall₂_take count allDecode
  rw [halves, List.take_left, whole.scanContents_eq]

theorem starved_of_take (allDecode : Contents.AllDecode pieces entries) {cut : Nat}
    (apart : ∀ count ≤ pieces.length, cut ≠ (pieces.take count).flatten.length)
    (within : cut ≤ pieces.flatten.length) :
    (scanContents (pieces.flatten.take cut)).Starved := by
  induction allDecode generalizing cut with
  | nil => exact absurd (Nat.le_zero.mp within) (apart 0 (Nat.le_refl 0))
  | @cons piece entry pieces entries decoded _ ih =>
      rw [List.flatten_cons] at within ⊢
      by_cases inside : cut < piece.length
      · rw [List.take_append_of_le_length (Nat.le_of_lt inside)]
        have begun : piece.take cut ≠ [] := by
          intro nothing
          rcases List.take_eq_nil_iff.mp nothing with zero | empty
          · exact apart 0 (Nat.zero_le _) zero
          · exact Contents.AllDecode.piece_ne_nil decoded empty
        exact starved_of_run_read begun (Contents.starved_of_take decoded inside)
      · -- The first piece is whole, and the cut falls into the pieces behind it.
        obtain ⟨more, rfl⟩ := Nat.exists_eq_add_of_le (Nat.le_of_not_lt inside)
        rw [List.length_append, Nat.add_le_add_iff_left] at within
        have others : ∀ count ≤ pieces.length, more ≠ (pieces.take count).flatten.length := by
          intro count least same
          apply apart (count + 1) (Nat.succ_le_succ least)
          rw [List.take_succ_cons, List.flatten_cons, List.length_append, same]
        rcases ih others within with ⟨error, shortage, failed⟩
        rw [List.take_length_add_append,
          scanContents_of_run_read (Contents.run_read_append decoded _), failed]
        exact ⟨error, shortage, rfl⟩

/-! ## Operations cut short -/

theorem take_append_branch (branch : BlockId) (body : Bytes) (more : Nat) :
    (branch.bytes.toList ++ body).take (32 + more) = branch.bytes.toList ++ body.take more := by
  rw [List.take_append, List.take_of_length_le (by simp), branch.bytes.length_toList,
    Nat.add_sub_cancel_left]

variable {input : Bytes} {operation : Operation}

theorem Pieces.decode_take (divided : Pieces input operation pieces) (more : Nat) :
    format.decode (input.take (32 + more)) =
      (scanContents (pieces.flatten.take more)).outcome >>= ofEntries operation.branch := by
  rw [divided.input_eq, take_append_branch, decode_append]

theorem Pieces.decode_take_boundary (divided : Pieces input operation pieces) {count : Nat}
    (positive : 1 ≤ count) :
    ∃ shorter, format.decode (input.take (boundary pieces count)) = .ok shorter ∧
      shorter.branch = operation.branch ∧
      shorter.contents = operation.contents.take count := by
  have nonempty : operation.contents.take count ≠ [] := by
    intro nothing
    rcases List.take_eq_nil_iff.mp nothing with zero | empty
    · exact absurd positive (Nat.not_le_of_lt (zero ▸ Nat.zero_lt_one))
    · exact operation.contents_ne_nil empty
  refine ⟨⟨operation.branch, operation.contents.take count, nonempty⟩, ?_, rfl, rfl⟩
  rw [boundary, divided.decode_take, scanContents_take_of_boundary divided.allDecode]
  exact dif_pos nonempty

theorem Pieces.shortage_of_take (divided : Pieces input operation pieces) {cut : Nat}
    (behind : 32 < cut) (within : cut ≤ input.length)
    (apart : ∀ count ≤ pieces.length, cut ≠ boundary pieces count) :
    ∃ error, error.Shortage ∧ format.decode (input.take cut) = .error error := by
  obtain ⟨more, rfl⟩ := Nat.exists_eq_add_of_le (Nat.le_of_lt behind)
  rw [← divided.boundary_length, boundary, List.take_length, Nat.add_le_add_iff_left] at within
  have apart : ∀ count ≤ pieces.length, more ≠ (pieces.take count).flatten.length := by
    intro count least same
    exact apart count least (congrArg (32 + ·) same)
  rcases starved_of_take divided.allDecode apart within with ⟨error, shortage, failed⟩
  refine ⟨error, shortage, ?_⟩
  rw [divided.decode_take, failed]
  rfl

/-- Whatever is left of an accepted input when it is cut short: behind whole entries the
operation with these entries, behind the branch alone an operation without contents,
and otherwise too little input. -/
theorem decode_take_of_decode (input : Bytes) (operation : Operation)
    (decoded : format.decode input = .ok operation) :
    ∃ pieces, (∀ others, Pieces input operation others ↔ others = pieces) ∧
      (∀ fewer count, fewer < count → count ≤ pieces.length →
        boundary pieces fewer < boundary pieces count) ∧
      boundary pieces pieces.length = input.length ∧
      ∀ cut ≤ input.length,
        (cut < 32 → format.decode (input.take cut) = .error .outOfBounds) ∧
        (cut = 32 → format.decode (input.take cut) = .error .noContents) ∧
        (∀ count, 1 ≤ count → count ≤ pieces.length → cut = boundary pieces count →
          ∃ shorter, format.decode (input.take cut) = .ok shorter ∧
            shorter.branch = operation.branch ∧
            shorter.contents = operation.contents.take count) ∧
        (32 < cut → (∀ count ≤ pieces.length, cut ≠ boundary pieces count) →
          format.decode (input.take cut) = .error .outOfBounds ∨
            format.decode (input.take cut) = .error .unterminatedZarith) := by
  rcases (decode_eq_ok_iff_exists_pieces input operation).mp decoded with ⟨pieces, divided⟩
  refine ⟨pieces, ?_, ?_, divided.boundary_length, ?_⟩
  · intro others
    constructor
    · intro again
      exact (again.unique divided).2
    · intro same
      rwa [same]
  · intro fewer count less within
    exact boundary_lt divided.allDecode less within
  · intro cut within
    refine ⟨?_, ?_, ?_, ?_⟩
    · intro short
      apply decode_of_length_lt
      rw [List.length_take_of_le within]
      exact short
    · intro branch
      rw [branch]
      refine (divided.decode_take 0).trans ?_
      rw [List.take_zero, scanContents]
      rfl
    · intro count positive _ same
      rw [same]
      exact divided.decode_take_boundary positive
    · intro behind apart
      rcases divided.shortage_of_take behind within apart with ⟨error, shortage, failed⟩
      cases shortage with
      | outOfBounds => exact .inl failed
      | unterminatedZarith => exact .inr failed

/-- The operation with an entry of every kind, cut within its branch and behind it. -/
theorem sampler_decode_take :
    format.decode sampler.layout.shortest = .ok sampler ∧
      format.decode (sampler.layout.shortest.take 31) = .error .outOfBounds ∧
      format.decode (sampler.layout.shortest.take 32) = .error .noContents := by
  have canWrite : sampler.Writable := by decide +kernel
  have decoded := decode_shortest canWrite
  rcases decode_take_of_decode _ _ decoded with ⟨pieces, -, -, -, short⟩
  have enough : 32 ≤ sampler.layout.shortest.length := by decide +kernel
  exact ⟨decoded, (short 31 (Nat.le_of_succ_le enough)).1 (by decide), (short 32 enough).2.1 rfl⟩

end Operation

end OperationForge
