import OperationForge.Proofs.Unsigned

/-!
# Names too long to write

A name that was given by hand may be too long for its one byte of length, and nothing
else can stop the writing of an operation: there always are entries, and blobs keep to
their bound.  Writing stops at the first such name, behind the tag that announces it,
and what was written up to there stays in the buffer.
-/

namespace OperationForge

namespace Output

/-- Stops behind the bytes. -/
def stoppedBehind (bytes : Bytes) (error : WireError) : Output := ⟨bytes, some error⟩

@[simp] theorem stoppedBehind_append (bytes : Bytes) (error : WireError) (second : Output) :
    stoppedBehind bytes error ++ second = stoppedBehind bytes error :=
  rfl

@[simp] theorem wrote_append_stoppedBehind (front bytes : Bytes) (error : WireError) :
    wrote front ++ stoppedBehind bytes error = stoppedBehind (front ++ bytes) error :=
  rfl

@[simp] theorem toExcept_stoppedBehind (bytes : Bytes) (error : WireError) :
    (stoppedBehind bytes error).toExcept = .error error :=
  rfl

theorem concat_append (outputs others : List Output) :
    concat (outputs ++ others) = concat outputs ++ concat others := by
  induction outputs with
  | nil => rfl
  | cons output outputs ih =>
      rw [List.cons_append, concat_cons, concat_cons, ih, Output.append_assoc]

end Output

/-! ## The offending entry -/

/-- The transaction calls an entrypoint by a name of more than 255 bytes. -/
def Transaction.Overlong (entry : Transaction) (name : String) : Prop :=
  255 < (Utf8.encode name).length ∧ ∃ value, entry.parameters = some ⟨.named name, value⟩

/-- The entry is a transaction that calls an entrypoint by a name of more than 255 bytes. -/
def Contents.Overlong (entry : Contents) (name : String) : Prop :=
  ∃ transfer : Transaction, entry = .transaction transfer ∧ transfer.Overlong name

theorem Entrypoint.not_writable_iff (entrypoint : Entrypoint) :
    ¬entrypoint.Writable ↔
      ∃ name, entrypoint = .named name ∧ 255 < (Utf8.encode name).length := by
  cases entrypoint with
  | named name =>
      have long : ¬(named name).Writable ↔ 255 < (Utf8.encode name).length := Nat.not_le
      simp [long]
  | default | root | doLambda | setDelegate | removeDelegate => simp [Writable]

theorem Transaction.not_writable_iff (entry : Transaction) :
    ¬entry.Writable ↔ ∃ name, entry.Overlong name := by
  constructor
  · intro cannot
    rw [Writable] at cannot
    push Not at cannot
    rcases cannot with ⟨⟨entrypoint, value⟩, present, cannot⟩
    rcases (Entrypoint.not_writable_iff entrypoint).mp cannot with ⟨name, rfl, long⟩
    exact ⟨name, long, value, present⟩
  · intro overlong canWrite
    rcases overlong with ⟨name, long, value, present⟩
    exact (Entrypoint.not_writable_iff _).mpr ⟨name, rfl, long⟩ (canWrite _ present)

namespace Contents

theorem not_writable_iff (entry : Contents) :
    ¬entry.Writable ↔ ∃ name, entry.Overlong name := by
  cases entry with
  | transaction entry => simpa [Overlong, Writable] using entry.not_writable_iff
  | revelation | origination | delegation | endorsement => simp [Overlong, Writable]

theorem writable_iff_forall_not_overlong (entry : Contents) :
    entry.Writable ↔ ∀ name, ¬entry.Overlong name := by
  rw [← not_exists, ← not_writable_iff, not_not]

/-- Entries that cannot all be written have a first one with a name that is too long. -/
theorem exists_first_overlong {contents : List Contents}
    (cannot : ¬∀ entry ∈ contents, entry.Writable) :
    ∃ front transfer name behind, contents = front ++ transaction transfer :: behind ∧
      transfer.Overlong name ∧ ∀ entry ∈ front, entry.Writable := by
  induction contents with
  | nil => exact absurd (List.forall_mem_nil _) cannot
  | cons entry entries ih =>
      by_cases canWrite : entry.Writable
      · have others : ¬∀ entry ∈ entries, entry.Writable := fun every =>
          cannot (List.forall_mem_cons.mpr ⟨canWrite, every⟩)
        rcases ih others with ⟨front, transfer, name, behind, rfl, overlong, every⟩
        exact ⟨entry :: front, transfer, name, behind, rfl, overlong,
          List.forall_mem_cons.mpr ⟨canWrite, every⟩⟩
      · rcases (not_writable_iff entry).mp canWrite with ⟨name, transfer, rfl, overlong⟩
        exact ⟨[], transfer, name, entries, rfl, overlong, List.forall_mem_nil _⟩

end Contents

/-! ## What is written in front of the name -/

variable {name : String}

theorem Entrypoint.write_overlong (long : 255 < (Utf8.encode name).length) :
    Entrypoint.format.write (.named name) =
      .stoppedBehind [0xff] (.overflowContainer (Utf8.encode name).length) := by
  have tooLong : maxNameLength < (Utf8.encode name).length := long
  simp only [format, writeName, tooLong, if_true]
  rfl

/-- The flag of the call and the tag of the entrypoint are written, but no byte of the
name and no byte of the argument. -/
theorem Parameters.write_overlong (long : 255 < (Utf8.encode name).length) (value : Payload) :
    Parameters.format.option.write (some ⟨.named name, value⟩) =
      .stoppedBehind [0xff, 0xff] (.overflowContainer (Utf8.encode name).length) := by
  change Format.bool.write true ++ (Entrypoint.format.write (.named name) ++ _) = _
  rw [Entrypoint.write_overlong long]
  rfl

theorem Transaction.write_overlong {entry : Transaction} (overlong : entry.Overlong name) :
    ∃ manager destination, Manager.format.encode entry.manager = .ok manager ∧
      Address.format.encode entry.destination = .ok destination ∧
      Transaction.format.write entry =
        .stoppedBehind
          ([108] ++ manager ++ Zarith.encodeNat entry.amount ++ destination ++ [0xff, 0xff])
          (.overflowContainer (Utf8.encode name).length) := by
  rcases overlong with ⟨long, value, present⟩
  have manager := Manager.format_follows.write_eq entry.manager trivial
  have destination := Address.format_follows.write_eq entry.destination trivial
  refine ⟨entry.manager.layout.shortest, entry.destination.layout.shortest,
    congrArg Output.toExcept manager, congrArg Output.toExcept destination, ?_⟩
  change .wrote [108] ++ (Manager.format.write entry.manager ++
    .wrote (Zarith.encodeNat entry.amount) ++ Address.format.write entry.destination ++
    Parameters.format.option.write entry.parameters) = _
  rw [manager, destination, present, Parameters.write_overlong long]
  simp

namespace Operation

variable {operation : Operation} {front behind : List Contents} {transfer : Transaction}

theorem write_overlong
    (split : operation.contents = front ++ .transaction transfer :: behind)
    (overlong : transfer.Overlong name) (canWrite : ∀ entry ∈ front, entry.Writable) :
    ∃ pieces manager destination, Contents.AllEncode front pieces ∧
      Manager.format.encode transfer.manager = .ok manager ∧
      Address.format.encode transfer.destination = .ok destination ∧
      format.write operation =
        .stoppedBehind
          (operation.branch.bytes.toList ++ pieces.flatten ++
            ([108] ++ manager ++ Zarith.encodeNat transfer.amount ++ destination ++ [0xff, 0xff]))
          (.overflowContainer (Utf8.encode name).length) := by
  rcases Contents.exists_allEncode canWrite with ⟨pieces, allEncode, flat⟩
  rcases Transaction.write_overlong overlong with ⟨manager, destination, managerEncoded,
    destinationEncoded, stopped⟩
  refine ⟨pieces, manager, destination, allEncode, managerEncoded, destinationEncoded, ?_⟩
  have written := (concat_write_eq_wrote_iff front pieces.flatten).mpr ⟨canWrite, flat⟩
  have last : Contents.format.write (.transaction transfer) = _ := stopped
  rw [write_eq, split, List.map_append, Output.concat_append, written, List.map_cons,
    Output.concat_cons, last]
  simp

/-- Encoding fails exactly if a transaction calls an entrypoint by a name that is too
long. -/
theorem exists_encode_eq_error_iff (operation : Operation) :
    (∃ error, format.encode operation = .error error) ↔
      ∃ entry ∈ operation.contents, ∃ name, entry.Overlong name := by
  have all : operation.Writable ↔ ¬∃ entry ∈ operation.contents, ∃ name, entry.Overlong name := by
    simp only [← Contents.not_writable_iff]
    push Not
    rfl
  rw [← not_iff_not, ← all]
  constructor
  · intro never
    cases encoded : format.encode operation with
    | ok bytes => exact ((encode_eq_ok_iff operation bytes).mp encoded).1
    | error error => exact absurd ⟨error, encoded⟩ never
  · intro canWrite failed
    rcases failed with ⟨error, failed⟩
    cases failed.symm.trans (encode_eq_shortest canWrite)

theorem signableHash_of_error {error : WireError}
    (failed : format.encode operation = .error error) :
    operation.signableHash = .error (.wire error) := by
  rw [signableHash, failed]
  rfl

end Operation

namespace SignedOperation

variable {operation : Operation} {error : WireError}

theorem sign_of_error (failed : Operation.format.encode operation = .error error)
    (key : SecretKey) : sign operation key = .error (.wire error) := by
  rw [sign, failed]
  rfl

theorem encode_of_error (failed : Operation.format.encode operation = .error error)
    (signature : Signature) : encode ⟨operation, signature⟩ = .error (.wire error) := by
  rw [encode, failed]
  rfl

theorem hash_of_error (failed : Operation.format.encode operation = .error error)
    (signature : Signature) : hash ⟨operation, signature⟩ = .error (.wire error) := by
  rw [hash, encode_of_error failed]
  rfl

theorem verify_of_error (failed : Operation.format.encode operation = .error error)
    (signature : Signature) (key : PublicKey) :
    verify ⟨operation, signature⟩ key = .error (.wire error) := by
  rw [verify, failed]
  rfl

end SignedOperation

namespace Operation

/-- Only the name of an entrypoint can stop the writing of an operation.  The first one
that is too long tells the error, which comes before every use of a key or a signature.
What is in the buffer then are the branch, the entries in front, and of the transaction
with the name everything up to the tag of the entrypoint. -/
theorem encode_stops_at_overlong (operation : Operation) :
    ((∃ error, format.encode operation = .error error) ↔
      ∃ entry ∈ operation.contents, ∃ name, entry.Overlong name) ∧
    ∀ error, format.encode operation = .error error →
      (∃ front transfer name behind,
        operation.contents = front ++ .transaction transfer :: behind ∧
        transfer.Overlong name ∧
        (∀ entry ∈ front, ∀ other, ¬entry.Overlong other) ∧
        error = .overflowContainer (Utf8.encode name).length ∧
        ∃ pieces manager destination, Contents.AllEncode front pieces ∧
          Manager.format.encode transfer.manager = .ok manager ∧
          Address.format.encode transfer.destination = .ok destination ∧
          ∀ buffer, (format.write operation).appendTo buffer =
            buffer ++ (operation.branch.bytes.toList ++ pieces.flatten ++
              ([108] ++ manager ++ Zarith.encodeNat transfer.amount ++ destination ++
                [0xff, 0xff]))) ∧
      operation.signableHash = .error (.wire error) ∧
      (∀ key, SignedOperation.sign operation key = .error (.wire error)) ∧
      ∀ signature, SignedOperation.encode ⟨operation, signature⟩ = .error (.wire error) ∧
        SignedOperation.hash ⟨operation, signature⟩ = .error (.wire error) ∧
        ∀ key, SignedOperation.verify ⟨operation, signature⟩ key = .error (.wire error) := by
  refine ⟨exists_encode_eq_error_iff operation, ?_⟩
  intro error failed
  refine ⟨?_, signableHash_of_error failed, SignedOperation.sign_of_error failed, ?_⟩
  · have cannot : ¬∀ entry ∈ operation.contents, entry.Writable := by
      intro canWrite
      cases failed.symm.trans (encode_eq_shortest canWrite)
    rcases Contents.exists_first_overlong cannot with
      ⟨front, transfer, name, behind, split, overlong, canWrite⟩
    rcases write_overlong split overlong canWrite with
      ⟨pieces, manager, destination, allEncode, managerEncoded, destinationEncoded, stopped⟩
    refine ⟨front, transfer, name, behind, split, overlong, ?_, ?_, pieces, manager, destination,
      allEncode, managerEncoded, destinationEncoded, ?_⟩
    · intro entry member
      exact (entry.writable_iff_forall_not_overlong).mp (canWrite entry member)
    · rw [Format.encode, stopped, Output.toExcept_stoppedBehind] at failed
      exact (Except.error.inj failed).symm
    · intro buffer
      rw [stopped]
      rfl
  · intro signature
    exact ⟨SignedOperation.encode_of_error failed signature,
      SignedOperation.hash_of_error failed signature,
      SignedOperation.verify_of_error failed signature⟩

/-- An endorsement, and then a call by a name of 256 letters. -/
def longCall : Operation where
  branch := withdrawal.branch
  contents :=
    let manager : Manager := ⟨⟨.ed25519, ⟨List.replicate 20 0x21, rfl⟩⟩, 1, 2, 3, 4⟩
    let call : Parameters := ⟨.named (String.ofList (List.replicate 256 'a')), ⟨[0x22], by decide⟩⟩
    [ .endorsement ⟨9⟩,
      .transaction ⟨manager, 300, .originated ⟨List.replicate 20 0x23, rfl⟩, some call⟩ ]
  contents_ne_nil := List.cons_ne_nil _ _

/-- Nothing is wrong with the endorsement, but the call cannot be written. -/
theorem longCall_stops :
    format.encode longCall = .error (.overflowContainer 256) ∧
      longCall.signableHash = .error (.wire (.overflowContainer 256)) := by
  have failed : format.encode longCall = .error (.overflowContainer 256) := by decide +kernel
  rcases encode_stops_at_overlong longCall with ⟨-, stops⟩
  rcases stops _ failed with ⟨-, hashed, -, -⟩
  exact ⟨failed, hashed⟩

end Operation

end OperationForge
