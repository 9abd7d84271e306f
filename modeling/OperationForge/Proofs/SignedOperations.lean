import OperationForge.Proofs.Operations
import OperationForge.Proofs.SecretKeys

/-!
# Signed operations on the wire

A signed operation is an operation and 64 bytes behind it, split from the end.  The
label is not among these bytes, so a trip over the wire keeps all but the label, and
the padding of numbers is lost on a trip that starts from bytes.  Hashes and checks
of signatures look at the bytes that would be written, not at the bytes that came.
-/

namespace OperationForge

/-- An input that is long enough ends in the bytes of a signature. -/
theorem SignedOperation.exists_signature {input : Bytes} (enough : 64 ≤ input.length) :
    ∃ (body : Bytes) (signature : FixedBytes 64), input = body ++ signature.toList := by
  refine ⟨input.take (input.length - 64), ⟨input.drop (input.length - 64), ?_⟩, ?_⟩
  · rw [List.length_drop]
    omega
  · exact (List.take_append_drop (input.length - 64) input).symm

namespace DecodeOptions

/-- The last 64 bytes are the signature, whatever stands in front. -/
theorem decodeInferring_append (options : DecodeOptions) (body : Bytes)
    (signature : FixedBytes 64) :
    options.decodeInferring (body ++ signature.toList) = do
      let operation ← options.decodeOperation body
      let inference := Inference.ofOperation operation
      if inference = .fallback && options.strict then
        throw .signatureTypeAmbiguous
      return (⟨operation, ⟨inference.kind, signature⟩⟩, inference) := by
  have enough : 64 ≤ (body ++ signature.toList).length := by simp
  have seam : (body ++ signature.toList).length - 64 = body.length := by simp
  have front : (body ++ signature.toList).take body.length = body := List.take_left
  have back : (body ++ signature.toList).drop body.length = signature.toList := List.drop_left
  rw [decodeInferring, dif_pos enough]
  simp only [seam, front, back]

theorem decodeInferring_of_length_lt (options : DecodeOptions) {input : Bytes}
    (short : input.length < 64) :
    options.decodeInferring input = .error (.tooShort input.length) := by
  rw [decodeInferring, dif_neg (Nat.not_le_of_lt short)]
  rfl

theorem decodeInferring_of_error (options : DecodeOptions) {body : Bytes} {error : WireError}
    (failed : Operation.format.decode body = .error error) (signature : FixedBytes 64) :
    options.decodeInferring (body ++ signature.toList) = .error (.wire error) := by
  rw [decodeInferring_append, decodeOperation, failed]
  rfl

/-- What is read is an operation, the bytes of a signature behind it, and the label
that the entries tell, unless reading is strict and they tell none. -/
theorem decodeInferring_eq_ok_iff (options : DecodeOptions) (input : Bytes)
    (signed : SignedOperation) (inference : Inference) :
    options.decodeInferring input = .ok (signed, inference) ↔
      ∃ body, input = body ++ signed.signature.bytes.toList ∧
        Operation.format.decode body = .ok signed.operation ∧
        Inference.Drawn signed.operation.contents inference ∧
        signed.signature.kind = inference.kind ∧
        ¬(inference = .fallback ∧ options.strict = true) := by
  rw [Inference.drawn_iff]
  constructor
  · intro answer
    by_cases enough : 64 ≤ input.length
    · rcases SignedOperation.exists_signature enough with ⟨body, signature, rfl⟩
      rw [decodeInferring_append] at answer
      rcases Except.bind_eq_ok_iff.mp answer with ⟨operation, decoded, answer⟩
      dsimp only at answer
      rw [decodeOperation, Except.mapError_eq_ok_iff] at decoded
      split at answer
      · cases answer
      · next allowed =>
          cases answer
          exact ⟨body, rfl, decoded, rfl, rfl, by simpa using allowed⟩
    · rw [decodeInferring_of_length_lt options (Nat.lt_of_not_le enough)] at answer
      cases answer
  · intro parts
    rcases signed with ⟨operation, ⟨label, signature⟩⟩
    rcases parts with ⟨body, rfl, decoded, drawn, labelled, allowed⟩
    dsimp only at drawn labelled
    subst drawn labelled
    have accepted : options.decodeOperation body = .ok operation := by
      rw [decodeOperation, Except.mapError_eq_ok_iff]
      exact decoded
    rw [decodeInferring_append, accepted]
    apply Except.bind_eq_ok_iff.mpr
    refine ⟨operation, rfl, ?_⟩
    dsimp only
    rw [if_neg (by simpa using allowed)]
    rfl

end DecodeOptions

namespace SignedOperation

/-- The same operation and bytes under another label. -/
def relabel (signed : SignedOperation) (kind : SignatureKind) : SignedOperation :=
  ⟨signed.operation, signed.signature.relabel kind⟩

theorem decode_eq_ok_iff (input : Bytes) (signed : SignedOperation) :
    decode input = .ok signed ↔ ∃ inference, decodeWithInference input = .ok (signed, inference) := by
  constructor
  · intro answer
    rcases Except.bind_eq_ok_iff.mp answer with ⟨⟨other, inference⟩, inferred, equal⟩
    cases equal
    exact ⟨inference, inferred⟩
  · intro inferred
    rcases inferred with ⟨inference, inferred⟩
    exact Except.bind_eq_ok_iff.mpr ⟨(signed, inference), inferred, rfl⟩

theorem decodeWithInference_eq_ok_iff (input : Bytes) (signed : SignedOperation)
    (inference : Inference) :
    decodeWithInference input = .ok (signed, inference) ↔
      ∃ body, input = body ++ signed.signature.bytes.toList ∧
        Operation.format.decode body = .ok signed.operation ∧
        Inference.Drawn signed.operation.contents inference ∧
        signed.signature.kind = inference.kind := by
  rw [decodeWithInference, DecodeOptions.decodeInferring_eq_ok_iff]
  simp

theorem encode_eq_ok_iff (signed : SignedOperation) (bytes : Bytes) :
    signed.encode = .ok bytes ↔
      ∃ body, Operation.format.encode signed.operation = .ok body ∧
        bytes = body ++ signed.signature.bytes.toList := by
  constructor
  · intro answer
    rcases Except.bind_eq_ok_iff.mp answer with ⟨body, encoded, equal⟩
    rw [Except.mapError_eq_ok_iff] at encoded
    cases equal
    exact ⟨body, encoded, rfl⟩
  · intro parts
    rcases parts with ⟨body, encoded, rfl⟩
    exact Except.bind_eq_ok_iff.mpr ⟨body, Except.mapError_eq_ok_iff.mpr encoded, rfl⟩

theorem hash_eq {signed : SignedOperation} {bytes : Bytes} (encoded : signed.encode = .ok bytes) :
    signed.hash = .ok ⟨Blake2b.digest256 bytes⟩ := by
  rw [hash, encoded]
  rfl

theorem verify_eq {signed : SignedOperation} {body : Bytes}
    (encoded : Operation.format.encode signed.operation = .ok body) (key : PublicKey) :
    signed.verify key = (signed.signature.verify .operation body key).mapError .key := by
  rw [verify, encoded]
  rfl

/-- Signing an operation is signing its digest. -/
theorem sign_eq_ok_iff (operation : Operation) (key : SecretKey) (signed : SignedOperation) :
    sign operation key = .ok signed ↔
      signed.operation = operation ∧
        ∃ digest, operation.signableHash = .ok digest ∧ key.Signs digest signed.signature := by
  constructor
  · intro signs
    rcases Except.bind_eq_ok_iff.mp signs with ⟨body, encoded, signs⟩
    rcases Except.bind_eq_ok_iff.mp signs with ⟨signature, made, equal⟩
    rw [Except.mapError_eq_ok_iff] at encoded made
    cases equal
    exact ⟨rfl, _, Operation.signableHash_eq encoded, (key.sign_eq_ok_iff _ _ _).mp made⟩
  · intro parts
    rcases signed with ⟨operation, signature⟩
    rcases parts with ⟨rfl, digest, hashed, signs⟩
    rcases (Operation.signableHash_eq_ok_iff _ _).mp hashed with ⟨body, encoded, rfl⟩
    have made := (key.sign_eq_ok_iff _ _ _).mpr signs
    apply Except.bind_eq_ok_iff.mpr
    refine ⟨body, Except.mapError_eq_ok_iff.mpr encoded, ?_⟩
    exact Except.bind_eq_ok_iff.mpr ⟨signature, Except.mapError_eq_ok_iff.mpr made, rfl⟩

/-- What a key has signed is the operation, with the label of the key. -/
theorem of_sign {operation : Operation} {key : SecretKey} {signed : SignedOperation}
    (signs : sign operation key = .ok signed) :
    signed.operation = operation ∧ signed.signature.kind = key.curve.signingKind := by
  rcases (sign_eq_ok_iff operation key signed).mp signs with ⟨same, digest, -, made⟩
  exact ⟨same, made.kind_eq⟩

/-! ## Trips over the wire -/

/-- What was encoded is decoded under the label that the entries tell. -/
theorem decodeWithInference_of_encode {signed : SignedOperation} {bytes : Bytes}
    {inference : Inference} (encoded : signed.encode = .ok bytes)
    (drawn : Inference.Drawn signed.operation.contents inference) :
    decodeWithInference bytes = .ok (signed.relabel inference.kind, inference) := by
  rcases (encode_eq_ok_iff signed bytes).mp encoded with ⟨body, written, rfl⟩
  have decoded := Operation.decode_of_encode written
  exact (decodeWithInference_eq_ok_iff _ _ _).mpr ⟨body, rfl, decoded, drawn, rfl⟩

theorem decode_of_encode_iff {signed : SignedOperation} {bytes : Bytes} {inference : Inference}
    (encoded : signed.encode = .ok bytes)
    (drawn : Inference.Drawn signed.operation.contents inference) :
    decode bytes = .ok signed ↔ signed.signature.kind = inference.kind := by
  have decoded : decode bytes = .ok (signed.relabel inference.kind) :=
    (decode_eq_ok_iff _ _).mpr ⟨inference, decodeWithInference_of_encode encoded drawn⟩
  rw [decoded]
  constructor
  · intro same
    exact congrArg (·.signature.kind) (Except.ok.inj same).symm
  · intro same
    rw [← same]
    rfl

/-- A trip over the wire keeps the operation and the bytes of the signature, and puts
the label that the entries tell in place of the one that there was.  What a key has
signed comes back unchanged when key and first source are both Ed25519, or when the
key is not and there is no source. -/
theorem decode_encode_up_to_label (signed : SignedOperation) (body : Bytes)
    (written : Operation.format.encode signed.operation = .ok body) :
    ∃ bytes inference,
      signed.encode = .ok bytes ∧
      Inference.Drawn signed.operation.contents inference ∧
      decodeWithInference bytes = .ok (signed.relabel inference.kind, inference) ∧
      (decode bytes = .ok signed ↔ signed.signature.kind = inference.kind) ∧
      (∀ kind, (signed.relabel kind).encode = signed.encode ∧
        (signed.relabel kind).hash = signed.hash) ∧
      ∀ key, sign signed.operation key = .ok signed →
        (decode bytes = .ok signed ↔
          (key.curve = .ed25519 ∧
            Inference.Drawn signed.operation.contents (.fromSource .ed25519)) ∨
          (key.curve ≠ .ed25519 ∧ Inference.Drawn signed.operation.contents .fallback)) := by
  have encoded := (encode_eq_ok_iff signed _).mpr ⟨body, written, rfl⟩
  have drawn := Inference.drawn_ofContents signed.operation.contents
  have unchanged := decode_of_encode_iff encoded drawn
  refine ⟨_, _, encoded, drawn, decodeWithInference_of_encode encoded drawn, unchanged, ?_, ?_⟩
  · intro kind
    exact ⟨rfl, rfl⟩
  · intro key signs
    rw [unchanged, (of_sign signs).2, Inference.signingKind_eq_kind_iff,
      Inference.drawn_iff, Inference.drawn_iff]
    rfl

/-- The key made of the sample seed. -/
def sampleKey : SecretKey := SecretKey.sampleSeed.secretKey

/-- The signature of an Ed25519 key under an Ed25519 source comes back as it was. -/
theorem withdrawal_decode_encode :
    ∃ signed bytes, sign .withdrawal sampleKey = .ok signed ∧ signed.encode = .ok bytes ∧
      decode bytes = .ok signed := by
  have succeeds : (sign .withdrawal sampleKey).isOk = true := by decide +kernel
  cases signs : sign .withdrawal sampleKey with
  | error error =>
      rw [signs] at succeeds
      cases succeeds
  | ok signed =>
      have same := (of_sign signs).1
      have canWrite : signed.operation.Writable := by
        rw [same]
        decide
      have written := Operation.encode_eq_shortest canWrite
      have drawn : Inference.Drawn signed.operation.contents (.fromSource .ed25519) := by
        rw [same, Inference.drawn_iff]
        rfl
      have made : sign signed.operation sampleKey = .ok signed := by rw [same, signs]
      rcases decode_encode_up_to_label signed _ written with
        ⟨bytes, _, encoded, -, -, -, -, unchanged⟩
      exact ⟨signed, bytes, rfl, encoded, (unchanged sampleKey made).mpr (.inl ⟨rfl, drawn⟩)⟩

/-- What is decoded is encoded as the bytes that came exactly if no number among them
is padded.  Otherwise the bytes without padding stand in their place: encoding gives
them, they decode alike, and hashes and checks of the signature are about them. -/
theorem encode_decode_up_to_padding (input : Bytes) (signed : SignedOperation)
    (decoded : decode input = .ok signed) :
    ∃ body canonical forms,
      input = body ++ signed.signature.bytes.toList ∧
      (∀ others, Layout.Spelling signed.operation.layout others body ↔ others = forms) ∧
      List.Forall₂ (fun form value => Zarith.decodeUnsigned form = .ok value)
        forms signed.operation.naturals ∧
      signed.encode = .ok (canonical ++ signed.signature.bytes.toList) ∧
      decode (canonical ++ signed.signature.bytes.toList) = .ok signed ∧
      canonical.length ≤ body.length ∧
      signed.hash = .ok ⟨Blake2b.digest256 (canonical ++ signed.signature.bytes.toList)⟩ ∧
      (∀ key, signed.verify key =
        (signed.signature.verify .operation canonical key).mapError .key) ∧
      (signed.encode = .ok input ↔ ∀ form ∈ forms, Zarith.IsShortest form) ∧
      ((∀ form ∈ forms, Zarith.IsShortest form) →
        signed.hash = .ok ⟨Blake2b.digest256 input⟩ ∧
        ∀ key, signed.verify key = (signed.signature.verify .operation body key).mapError .key) := by
  rcases (decode_eq_ok_iff input signed).mp decoded with ⟨inference, inferred⟩
  rcases (decodeWithInference_eq_ok_iff _ _ _).mp inferred with
    ⟨body, rfl, bodyDecoded, drawn, labelled⟩
  rcases (Operation.decode_eq_ok_iff _ _).mp bodyDecoded with ⟨canWrite, forms, spelling⟩
  have reads := spelling.forms_read
  rw [Operation.numbers_layout] at reads
  have written := Operation.encode_eq_shortest canWrite
  have encoded := (encode_eq_ok_iff signed _).mpr ⟨_, written, rfl⟩
  have again := (decode_of_encode_iff encoded drawn).mpr labelled
  have unpadded :
      signed.encode = .ok (body ++ signed.signature.bytes.toList) ↔
        ∀ form ∈ forms, Zarith.IsShortest form := by
    rw [encoded, ← spelling.shortest_eq_iff]
    simp
  refine ⟨body, signed.operation.layout.shortest, forms, rfl, spelling.spelling_iff, reads, encoded,
    again, spelling.length_shortest_le, hash_eq encoded, verify_eq written, unpadded, ?_⟩
  intro every
  have same := spelling.shortest_eq_iff.mpr every
  rw [same] at written
  exact ⟨hash_eq (unpadded.mpr every), verify_eq written⟩

/-- The withdrawal and some bytes in place of a signature. -/
def signedWithdrawal : SignedOperation :=
  ⟨.withdrawal, .onCurve .ed25519, ⟨List.replicate 64 0x5a, rfl⟩⟩

/-- The signed withdrawal, with two groups of zeros behind the fee. -/
def paddedSignedWithdrawal : Bytes :=
  Operation.paddedWithdrawal ++ List.replicate 64 0x5a

theorem paddedSignedWithdrawal_up_to_padding :
    decode paddedSignedWithdrawal = .ok signedWithdrawal ∧
      ∃ canonical, signedWithdrawal.encode = .ok canonical ∧
        decode canonical = .ok signedWithdrawal := by
  have decoded : decode paddedSignedWithdrawal = .ok signedWithdrawal := by decide +kernel
  rcases encode_decode_up_to_padding _ _ decoded with ⟨_, _, _, -, -, -, encoded, again, -⟩
  exact ⟨decoded, _, encoded, again⟩

/-- Padding is lost, and the hash is not that of the bytes that came. -/
theorem not_encode_decode_of_padded :
    decode paddedSignedWithdrawal = .ok signedWithdrawal ∧
      signedWithdrawal.encode ≠ .ok paddedSignedWithdrawal ∧
      signedWithdrawal.hash ≠ .ok ⟨Blake2b.digest256 paddedSignedWithdrawal⟩ := by
  decide +kernel

end SignedOperation

end OperationForge
