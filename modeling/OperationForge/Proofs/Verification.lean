import OperationForge.Proofs.Digests

/-!
# Signing, sending and checking

A signed operation is checked under the label that its key has given, and after a trip
over the wire under the label that its entries tell.  Between the two stand three
tables: the labels of keys, the labels of sources and the labels that checks take.
-/

namespace OperationForge

namespace SignedOperation

variable {operation : Operation} {key : SecretKey} {publicKey : PublicKey}
variable {signed : SignedOperation}

/-- What a key has signed is checked alike under all labels that checks take. -/
theorem verify_relabel_of_sign (derived : key.publicKey = .ok publicKey)
    (signs : sign operation key = .ok signed)
    (own : ∀ digest, operation.signableHash = .ok digest → key.ChecksOwn digest)
    {kind : SignatureKind} (taken : Signature.checkKind kind = .ok ()) :
    (signed.relabel kind).verify publicKey =
      if key.curve = .ed25519 then .ok ()
      else .error (.key (.unsupportedKeyType key.curve)) := by
  rcases (sign_eq_ok_iff operation key signed).mp signs with ⟨rfl, digest, hashed, made⟩
  have accepts := own digest hashed
  rcases (Operation.signableHash_eq_ok_iff _ digest).mp hashed with ⟨body, encoded, rfl⟩
  have same : Operation.format.encode (signed.relabel kind).operation = .ok body := encoded
  have checked := Signature.verify_of_signs derived made accepts taken
  rw [verify_eq same, relabel, checked]
  split <;> rfl

/-- Labels of other curves are refused before the key is looked at. -/
theorem verify_relabel_of_curve_ne {body : Bytes}
    (encoded : Operation.format.encode signed.operation = .ok body) {curve : Curve}
    (other : curve ≠ .ed25519) (publicKey : PublicKey) :
    (signed.relabel (.onCurve curve)).verify publicKey =
      .error (.key (.signatureTypeMismatch (.onCurve curve))) := by
  have same : Operation.format.encode (signed.relabel (.onCurve curve)).operation = .ok body :=
    encoded
  have refused := Signature.checkKind_onCurve other
  rw [verify_eq same, Signature.verify_of_checkKind_error refused]
  rfl

/-- What a key has signed holds under its public key if it is an Ed25519 key, and
cannot be checked otherwise.  A trip over the wire changes neither as long as the label
that comes out of it is that of an Ed25519 source or the generic one for want of any
source.  With the label of another source the check fails because of the label,
whatever the key.  The hash stays the same in any case. -/
theorem verify_of_sign_of_decode (operation : Operation) (key : SecretKey) (publicKey : PublicKey)
    (signed : SignedOperation) (derived : key.publicKey = .ok publicKey)
    (signs : sign operation key = .ok signed)
    (own : ∀ digest, operation.signableHash = .ok digest → key.ChecksOwn digest) :
    ∃ bytes decoded,
      signed.encode = .ok bytes ∧ decode bytes = .ok decoded ∧
      (key.curve = .ed25519 →
        signed.verify publicKey = .ok () ∧
        (decoded.verify publicKey = .ok () ↔
          Inference.Drawn operation.contents (.fromSource .ed25519) ∨
            Inference.Drawn operation.contents .fallback)) ∧
      (key.curve ≠ .ed25519 →
        signed.verify publicKey = .error (.key (.unsupportedKeyType key.curve)) ∧
        (Inference.Drawn operation.contents (.fromSource .ed25519) ∨
            Inference.Drawn operation.contents .fallback →
          decoded.verify publicKey = .error (.key (.unsupportedKeyType key.curve)))) ∧
      (∀ curve ≠ .ed25519, Inference.Drawn operation.contents (.fromSource curve) →
        decoded.verify publicKey = .error (.key (.signatureTypeMismatch (.onCurve curve)))) ∧
      signed.hash = .ok ⟨Blake2b.digest256 bytes⟩ ∧ decoded.hash = signed.hash := by
  rcases of_sign signs with ⟨rfl, labelled⟩
  rcases (sign_eq_ok_iff _ key signed).mp signs with ⟨-, digest, hashed, -⟩
  rcases (Operation.signableHash_eq_ok_iff _ digest).mp hashed with ⟨body, written, -⟩
  have encoded := (encode_eq_ok_iff signed _).mpr ⟨body, written, rfl⟩
  obtain ⟨inference, drawn⟩ : ∃ inference, Inference.Drawn signed.operation.contents inference :=
    ⟨_, Inference.drawn_ofContents _⟩
  have decoded := (decode_eq_ok_iff _ _).mpr ⟨_, decodeWithInference_of_encode encoded drawn⟩
  -- On its way the signature changes its label and nothing else.
  have taken {kind : SignatureKind} (accepted : Signature.checkKind kind = .ok ()) :=
    verify_relabel_of_sign derived signs own accepted
  have unchanged := taken key.curve.checkKind_signingKind
  rw [← labelled] at unchanged
  refine ⟨_, signed.relabel inference.kind, encoded, decoded, ?_, ?_, ?_, hash_eq encoded, rfl⟩
  · intro edwards
    simp only [edwards, if_true] at taken unchanged
    refine ⟨unchanged, ?_, ?_⟩
    · intro holds
      cases inference with
      | fallback => exact .inr drawn
      | fromSource curve =>
          by_cases same : curve = .ed25519
          · exact .inl (same ▸ drawn)
          · have refused := verify_relabel_of_curve_ne written same publicKey
            cases refused.symm.trans holds
    · rintro (told | told) <;>
        · obtain rfl := told.unique drawn
          exact taken rfl
  · intro other
    simp only [other, if_false] at taken unchanged
    refine ⟨unchanged, ?_⟩
    rintro (told | told) <;>
      · obtain rfl := told.unique drawn
        exact taken rfl
  · intro curve other told
    obtain rfl := told.unique drawn
    exact verify_relabel_of_curve_ne written other publicKey

/-- A withdrawal from an account on another curve than the sample key, behind an
endorsement. -/
def foreignWithdrawal : Operation where
  branch := Operation.withdrawal.branch
  contents :=
    [ .endorsement ⟨9⟩,
      .delegation ⟨⟨⟨.p256, ⟨List.replicate 20 0x11, rfl⟩⟩, 1, 2, 3, 4⟩, none⟩ ]
  contents_ne_nil := by simp

/-- The signature of an Ed25519 key holds until its label is drawn from another curve. -/
theorem foreignWithdrawal_verify :
    ∃ publicKey signed bytes decoded,
      sampleKey.publicKey = .ok publicKey ∧ sign foreignWithdrawal sampleKey = .ok signed ∧
      signed.verify publicKey = .ok () ∧
      signed.encode = .ok bytes ∧ decode bytes = .ok decoded ∧
      decoded.verify publicKey = .error (.key (.signatureTypeMismatch (.onCurve .p256))) := by
  have found : SecretKey.seedOfKeypair sampleKey.bytes = .ok ⟨List.replicate 32 0x09, rfl⟩ := by
    decide +kernel
  have derived := SecretKey.publicKey_of_seedOfKeypair found
  have encoded : Operation.format.encode foreignWithdrawal =
      .ok foreignWithdrawal.layout.shortest := Operation.encode_eq_shortest (by decide)
  have hashed := Operation.signableHash_eq encoded
  have signs := (sign_eq_ok_iff foreignWithdrawal sampleKey ⟨_, _⟩).mpr
    ⟨rfl, _, hashed, .ed25519 found⟩
  have own : ∀ digest, foreignWithdrawal.signableHash = .ok digest →
      sampleKey.ChecksOwn digest := by
    intro digest again seed other
    obtain rfl := Except.ok.inj (hashed.symm.trans again)
    obtain rfl := Except.ok.inj (found.symm.trans other)
    decide +kernel
  have drawn : Inference.Drawn foreignWithdrawal.contents (.fromSource .p256) :=
    (Inference.drawn_iff _ _).mpr rfl
  rcases verify_of_sign_of_decode _ _ _ _ derived signs own with
    ⟨bytes, decoded, written, read, edwards, -, mismatch, -⟩
  exact ⟨_, _, bytes, decoded, derived, signs, (edwards rfl).1, written, read,
    mismatch .p256 (by decide) drawn⟩

end SignedOperation

end OperationForge
