import OperationForge.Proofs.SignedOperations

/-!
# What digests tell

The hash cannot tell all byte strings apart, since there are more of them than digests.
That it does so is assumed of the byte strings at hand.  From there on digests tell
operations apart: the watermark is the first byte of what is hashed, the bytes of an
operation belong to no other one, and a signature has a fixed length at the end.
-/

namespace OperationForge

/-- The hash does not take two different byte strings to one digest. -/
def Blake2b.TellsApart (left right : Bytes) : Prop :=
  digest256 left = digest256 right → left = right

instance (left right : Bytes) : Decidable (Blake2b.TellsApart left right) :=
  inferInstanceAs (Decidable (_ → _))

theorem Blake2b.TellsApart.digest256_eq_iff {left right : Bytes} (apart : TellsApart left right) :
    digest256 left = digest256 right ↔ left = right := by
  constructor
  · exact apart
  · intro same
    rw [same]

namespace Watermark

theorem byte_injective {left right : Watermark} (same : left.byte = right.byte) : left = right := by
  have found := ofByte?_byte left
  rw [same, ofByte?_byte] at found
  exact (Option.some.inj found).symm

/-- A digest tells the watermark and the message. -/
theorem signingDigest_eq_iff {left right : Watermark} {message other : Bytes}
    (apart : Blake2b.TellsApart (left.byte :: message) (right.byte :: other)) :
    left.signingDigest message = right.signingDigest other ↔ left = right ∧ message = other := by
  rw [signingDigest, signingDigest, apart.digest256_eq_iff, List.cons.injEq]
  constructor
  · intro same
    exact ⟨byte_injective same.1, same.2⟩
  · intro same
    exact ⟨congrArg byte same.1, same.2⟩

end Watermark

namespace Operation

/-- The bytes of an operation are those of no other one. -/
theorem eq_of_encode {left right : Operation} {bytes : Bytes}
    (first : format.encode left = .ok bytes) (second : format.encode right = .ok bytes) :
    left = right :=
  Except.ok.inj ((decode_of_encode first).symm.trans (decode_of_encode second))

/-- The hash tells what it is given for the operation from what it is given for the
message, if it is given anything for the operation. -/
def ToldFrom (operation : Operation) (mark : Watermark) (message : Bytes) : Prop :=
  ∀ body, format.encode operation = .ok body →
    Blake2b.TellsApart (Watermark.operation.byte :: body) (mark.byte :: message)

/-- The digest of an operation is that of its own bytes and watermark only. -/
theorem signableHash_eq_signingDigest_iff {operation : Operation} {mark : Watermark}
    {message : Bytes} (told : operation.ToldFrom mark message) :
    operation.signableHash = .ok (mark.signingDigest message) ↔
      mark = .operation ∧ format.encode operation = .ok message := by
  rw [signableHash_eq_ok_iff]
  constructor
  · intro hashed
    rcases hashed with ⟨body, encoded, same⟩
    rcases (Watermark.signingDigest_eq_iff (told body encoded)).mp same with ⟨rfl, rfl⟩
    exact ⟨rfl, encoded⟩
  · intro parts
    rcases parts with ⟨rfl, encoded⟩
    exact ⟨message, encoded, rfl⟩

theorem signableHash_ne_of_ne {operation : Operation} {mark : Watermark} {message : Bytes}
    (other : mark ≠ .operation) (told : operation.ToldFrom mark message) :
    operation.signableHash ≠ .ok (mark.signingDigest message) := by
  intro hashed
  exact other ((signableHash_eq_signingDigest_iff told).mp hashed).1

end Operation

namespace SignedOperation

/-- The bytes of a signed operation tell the operation and the bytes of the signature. -/
theorem encode_eq_iff {left right : SignedOperation} {leftBytes rightBytes : Bytes}
    (first : left.encode = .ok leftBytes) (second : right.encode = .ok rightBytes) :
    leftBytes = rightBytes ↔
      left.operation = right.operation ∧ left.signature.bytes = right.signature.bytes := by
  rcases (encode_eq_ok_iff left leftBytes).mp first with ⟨body, encoded, rfl⟩
  rcases (encode_eq_ok_iff right rightBytes).mp second with ⟨other, again, rfl⟩
  constructor
  · intro same
    -- Signatures are equally long, so the seam is found from the end.
    rcases List.append_inj' same (by simp) with ⟨bodies, signatures⟩
    rw [← bodies] at again
    exact ⟨Operation.eq_of_encode encoded again, FixedBytes.ext signatures⟩
  · intro same
    rw [same.1, again] at encoded
    rw [Except.ok.inj encoded, same.2]

/-- The hash of a signed operation tells all of it but the label. -/
theorem hash_eq_iff {left right : SignedOperation} {leftBytes rightBytes : Bytes}
    (first : left.encode = .ok leftBytes) (second : right.encode = .ok rightBytes)
    (apart : Blake2b.TellsApart leftBytes rightBytes) :
    left.hash = right.hash ↔
      left.operation = right.operation ∧ left.signature.bytes = right.signature.bytes := by
  rw [hash_eq first, hash_eq second, ← encode_eq_iff first second, ← apart.digest256_eq_iff]
  simp

/-- As far as the hash tells apart what it is given, equal digests are digests of one
operation, and equal hashes those of one operation with the same bytes for a signature,
whatever the labels.  A digest of a message is the digest of an operation only if the
message is the operation and the watermark that of operations.  It is the digest and
nothing else of which keys make signatures, so those that were made under another
watermark, such as signatures of texts, are of no operation. -/
theorem digests_tell_operations :
    (∀ left right leftBytes rightBytes,
      Operation.format.encode left = .ok leftBytes →
      Operation.format.encode right = .ok rightBytes →
      Blake2b.TellsApart (Watermark.operation.byte :: leftBytes)
        (Watermark.operation.byte :: rightBytes) →
      (left.signableHash = right.signableHash ↔ left = right)) ∧
    (∀ (left right : SignedOperation) leftBytes rightBytes,
      left.encode = .ok leftBytes → right.encode = .ok rightBytes →
      Blake2b.TellsApart leftBytes rightBytes →
      (left.hash = right.hash ↔
        left.operation = right.operation ∧ left.signature.bytes = right.signature.bytes)) ∧
    (∀ (operation : Operation) mark message, operation.ToldFrom mark message →
      (operation.signableHash = .ok (mark.signingDigest message) ↔
        mark = .operation ∧ Operation.format.encode operation = .ok message)) ∧
    (∀ operation key signed, sign operation key = .ok signed ↔
      signed.operation = operation ∧
        ∃ digest, operation.signableHash = .ok digest ∧ key.Signs digest signed.signature) ∧
    (∀ (key : SecretKey) mark message signature, mark ≠ .operation →
      key.sign mark message = .ok signature →
      key.Signs (mark.signingDigest message) signature ∧
        ∀ operation : Operation, operation.ToldFrom mark message →
          operation.signableHash ≠ .ok (mark.signingDigest message)) ∧
    (∀ (key : SecretKey) text signature, key.signText text = .ok signature →
      key.Signs (Watermark.text.signingDigest (Utf8.encode text)) signature ∧
        ∀ operation : Operation, operation.ToldFrom .text (Utf8.encode text) →
          operation.signableHash ≠ .ok (Watermark.text.signingDigest (Utf8.encode text))) := by
  refine ⟨?_, ?_, ?_, sign_eq_ok_iff, ?_, ?_⟩
  · intro left right leftBytes rightBytes first second apart
    rw [Operation.signableHash_eq first, Operation.signableHash_eq second,
      Except.ok.injEq, Watermark.signingDigest_eq_iff apart]
    constructor
    · intro same
      rw [← same.2] at second
      exact Operation.eq_of_encode first second
    · intro same
      rw [same, second] at first
      exact ⟨rfl, (Except.ok.inj first).symm⟩
  · intro left right leftBytes rightBytes first second apart
    exact hash_eq_iff first second apart
  · intro operation mark message told
    exact Operation.signableHash_eq_signingDigest_iff told
  · intro key mark message signature other signed
    refine ⟨(key.sign_eq_ok_iff _ _ _).mp signed, ?_⟩
    intro operation told
    exact Operation.signableHash_ne_of_ne other told
  · intro key text signature signed
    refine ⟨(key.sign_eq_ok_iff _ _ _).mp signed, ?_⟩
    intro operation told
    exact Operation.signableHash_ne_of_ne nofun told

/-- The digest of the withdrawal is not that of the operation with all kinds of entries,
and not that of its own bytes under another watermark. -/
theorem withdrawal_digest_tells :
    Operation.withdrawal.signableHash ≠ Operation.sampler.signableHash ∧
      ∃ bytes signature, Operation.format.encode .withdrawal = .ok bytes ∧
        sampleKey.sign .custom bytes = .ok signature ∧
        Operation.withdrawal.signableHash ≠ .ok (Watermark.custom.signingDigest bytes) := by
  have encoded : Operation.format.encode .withdrawal = .ok Operation.withdrawal.layout.shortest :=
    Operation.encode_eq_shortest (by decide)
  have others : Operation.format.encode .sampler = .ok Operation.sampler.layout.shortest :=
    Operation.encode_eq_shortest (by decide +kernel)
  rcases digests_tell_operations with ⟨tells, -, -, -, marks, -⟩
  refine ⟨?_, Operation.withdrawal.layout.shortest, ?_⟩
  · intro same
    have equal := (tells _ _ _ _ encoded others (by decide +kernel)).mp same
    exact absurd equal (by decide)
  · have succeeds :
        (sampleKey.sign .custom Operation.withdrawal.layout.shortest).isOk = true := by
      decide +kernel
    cases signed : sampleKey.sign .custom Operation.withdrawal.layout.shortest with
    | error error =>
        rw [signed] at succeeds
        cases succeeds
    | ok signature =>
        have told : Operation.withdrawal.ToldFrom .custom Operation.withdrawal.layout.shortest := by
          intro body again
          obtain rfl := Except.ok.inj (encoded.symm.trans again)
          decide +kernel
        have covered := marks sampleKey .custom _ signature (by decide) signed
        exact ⟨signature, encoded, rfl, covered.2 .withdrawal told⟩

end SignedOperation

end OperationForge
