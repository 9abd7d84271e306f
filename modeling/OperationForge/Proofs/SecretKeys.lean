import OperationForge.Proofs.Labels

/-!
# Secret keys in use

Whether the bytes of a secret key are in order is found out anew each time that the key is
used, and always by the same test.  So a key that has no public key signs nothing, for the
same reason and whatever the message is.  A key that passes the test signs every message,
as far as the draws of nonces go, and what its public key then says of the signature
depends on the curve and on the label alone.
-/

namespace OperationForge

namespace SecretKey

variable {key : SecretKey} {error : KeyError} {mark : Watermark} {message : Bytes}

/-! ## Keys that are refused -/

/-- The bytes of the key are not in order. -/
def Refused : SecretKey → KeyError → Prop
  | ⟨.ed25519, pair⟩, error => seedOfKeypair pair = .error error
  | ⟨.secp256k1, bytes⟩, error => scalarOfBytes .secp256k1 Ecdsa.secp256k1 bytes = .error error
  | ⟨.p256, bytes⟩, error => scalarOfBytes .p256 Ecdsa.p256 bytes = .error error

theorem exists_fault_of_seedOfKeypair {pair : FixedBytes 64}
    (failed : seedOfKeypair pair = .error error) : ∃ fault, error = .invalidKey .ed25519 fault := by
  simp only [seedOfKeypair] at failed
  split at failed
  · cases failed
    exact ⟨.notOnCurve, rfl⟩
  · split at failed
    · cases failed
    · cases failed
      exact ⟨.mismatchedKeypair, rfl⟩

theorem exists_fault_of_scalarOfBytes {curve : Curve} {scheme : Ecdsa.Scheme}
    {bytes : FixedBytes 32} (failed : scalarOfBytes curve scheme bytes = .error error) :
    ∃ fault, error = .invalidKey curve fault := by
  simp only [scalarOfBytes] at failed
  split at failed
  · cases failed
  · cases failed
    exact ⟨.rejected, rfl⟩

theorem Refused.exists_fault (refused : key.Refused error) :
    ∃ fault, error = .invalidKey key.curve fault := by
  rcases key with ⟨curve, bytes⟩
  cases curve with
  | ed25519 => exact exists_fault_of_seedOfKeypair refused
  | secp256k1 | p256 => exact exists_fault_of_scalarOfBytes refused

/-- A key has no public key exactly if its bytes are not in order. -/
theorem publicKey_eq_error_iff : key.publicKey = .error error ↔ key.Refused error := by
  constructor
  · intro failed
    rcases key with ⟨curve, bytes⟩
    cases curve <;>
      cases Except.bind_eq_error_iff.mp failed with
      | inl refused => exact refused
      | inr derived =>
          obtain ⟨_, -, impossible⟩ := derived
          cases impossible
  · intro refused
    rcases key with ⟨curve, bytes⟩
    cases curve <;> exact Except.bind_eq_error_iff.mpr (.inl refused)

theorem Refused.sign_eq (refused : key.Refused error) :
    key.sign mark message = .error error := by
  rcases key with ⟨curve, bytes⟩
  cases curve <;> exact Except.bind_eq_error_iff.mpr (.inl refused)

/-! ## Keys that sign -/

/-- If the bytes of the key are in order, it signs the digest: a nonce is found, and
neither number of the signature is zero.  Ed25519 keys draw no nonces. -/
def Completes : SecretKey → FixedBytes 32 → Prop
  | ⟨.ed25519, _⟩, _ => True
  | ⟨.secp256k1, bytes⟩, digest =>
      ∀ secret, scalarOfBytes .secp256k1 Ecdsa.secp256k1 bytes = .ok secret →
        (Ecdsa.sign? Ecdsa.secp256k1 secret digest.toList).isSome = true
  | ⟨.p256, bytes⟩, digest =>
      ∀ secret, scalarOfBytes .p256 Ecdsa.p256 bytes = .ok secret →
        (Ecdsa.sign? Ecdsa.p256 secret digest.toList).isSome = true

theorem refused_of_sign (completes : key.Completes (mark.signingDigest message))
    (failed : key.sign mark message = .error error) : key.Refused error := by
  rcases key with ⟨curve, bytes⟩
  cases curve with
  | ed25519 =>
      cases Except.bind_eq_error_iff.mp failed with
      | inl refused => exact refused
      | inr signed =>
          obtain ⟨_, -, impossible⟩ := signed
          cases impossible
  | secp256k1 | p256 =>
      cases Except.bind_eq_error_iff.mp failed with
      | inl refused => exact refused
      | inr signed =>
          obtain ⟨secret, found, answer⟩ := signed
          obtain ⟨signature, made⟩ := Option.isSome_iff_exists.mp (completes secret found)
          rw [made] at answer
          cases answer

end SecretKey

namespace Signature

variable {mark : Watermark} {message : Bytes} {publicKey : PublicKey}

/-- Of the label a check sees only whether it takes it. -/
theorem verify_eq_of_checkKind_eq {left right : Signature} (bytes : left.bytes = right.bytes)
    (labels : checkKind left.kind = checkKind right.kind) :
    left.verify mark message publicKey = right.verify mark message publicKey := by
  simp only [verify, bytes, labels]

end Signature

namespace SecretKey

theorem Signs.checkKind_eq {key : SecretKey} {digest : FixedBytes 32} {signature : Signature}
    (signs : key.Signs digest signature) : Signature.checkKind signature.kind = .ok () := by
  rw [signs.kind_eq]
  exact key.curve.checkKind_signingKind

/-- What an Ed25519 key signs carries its own label, and holds under its public key with
that label or the generic one. -/
theorem verify_of_sign_ed25519 {key : SecretKey} {mark : Watermark} {message : Bytes}
    {signature : Signature} {publicKey : PublicKey} (edwards : key.curve = .ed25519)
    (signs : key.Signs (mark.signingDigest message) signature)
    (derived : key.publicKey = .ok publicKey)
    (own : key.ChecksOwn (mark.signingDigest message)) :
    signature.verify mark message publicKey = .ok () ∧
      (signature.relabel .generic).verify mark message publicKey = .ok () := by
  have holds {kind : SignatureKind} (taken : Signature.checkKind kind = .ok ()) :
      (signature.relabel kind).verify mark message publicKey = .ok () := by
    rw [Signature.verify_of_signs derived signs own taken, if_pos edwards]
  exact ⟨holds signs.checkKind_eq, holds rfl⟩

/-- A key signs nothing exactly if it has no public key, for want of a key in order and for
the same reason, whatever is signed.  What an Ed25519 key signs holds under its public key
with its own label and with the generic one, which no check tells apart, and with another
label is refused before any key is looked at.  What other keys sign is generic, and their
public keys check nothing. -/
theorem sign_agrees_with_publicKey (key : SecretKey) (mark : Watermark) (message : Bytes) :
    (∀ error, key.publicKey = .error error →
      (∃ fault, error = .invalidKey key.curve fault) ∧ key.sign mark message = .error error) ∧
    (key.Completes (mark.signingDigest message) → ∀ error,
      key.sign mark message = .error error → key.publicKey = .error error) ∧
    (∀ signature publicKey, key.sign mark message = .ok signature →
      key.publicKey = .ok publicKey →
      publicKey.curve = key.curve ∧
      (key.curve = .ed25519 →
        signature.kind = .onCurve .ed25519 ∧
        (key.ChecksOwn (mark.signingDigest message) →
          signature.verify mark message publicKey = .ok () ∧
          (signature.relabel .generic).verify mark message publicKey = .ok ()) ∧
        ∀ curve ≠ .ed25519, ∀ otherKey,
          (signature.relabel (.onCurve curve)).verify mark message otherKey =
            .error (.signatureTypeMismatch (.onCurve curve))) ∧
      (key.curve ≠ .ed25519 →
        signature.kind = .generic ∧
        signature.verify mark message publicKey = .error (.unsupportedKeyType key.curve))) ∧
    ∀ (signature : Signature) otherKey,
      (signature.relabel (.onCurve .ed25519)).verify mark message otherKey =
        (signature.relabel .generic).verify mark message otherKey := by
  refine ⟨?refused, ?completed, ?signed, ?labels⟩
  case refused =>
    intro error failed
    have refused := publicKey_eq_error_iff.mp failed
    exact ⟨refused.exists_fault, refused.sign_eq⟩
  case completed =>
    intro completes error failed
    exact publicKey_eq_error_iff.mpr (refused_of_sign completes failed)
  case signed =>
    intro signature publicKey signed derived
    have signs := (sign_eq_ok_iff key mark message signature).mp signed
    have label := signs.kind_eq
    have sameCurve := curve_of_publicKey derived
    refine ⟨sameCurve, ?_, ?_⟩
    · intro edwards
      rw [edwards] at label
      refine ⟨label, verify_of_sign_ed25519 edwards signs derived, ?_⟩
      intro curve other otherKey
      exact Signature.verify_of_checkKind_error (Signature.checkKind_onCurve other)
    · intro other
      rw [Curve.signingKind_of_ne other] at label
      have foreign : publicKey.curve ≠ .ed25519 := by rwa [sameCurve]
      refine ⟨label, ?_⟩
      rw [Signature.verify_of_curve_ne signs.checkKind_eq foreign, sameCurve]
  case labels =>
    intro signature otherKey
    exact Signature.verify_eq_of_checkKind_eq rfl rfl

/-- The keypair of a seed is in order if its public half is a point. -/
theorem seedOfKeypair_secretKey {seed : Seed}
    (decompressed : (Edwards25519.Point.decompress? (Ed25519.publicKey seed.bytes)).isSome = true) :
    seedOfKeypair seed.secretKey.bytes = .ok seed.bytes := by
  obtain ⟨point, found⟩ := Option.isSome_iff_exists.mp decompressed
  have secretHalf : seed.secretKey.bytes.toList.take 32 = seed.bytes.toList :=
    List.take_left' seed.bytes.length_toList
  have publicHalf : seed.secretKey.bytes.toList.drop 32 = (Ed25519.publicKey seed.bytes).toList :=
    List.drop_left' seed.bytes.length_toList
  simp only [seedOfKeypair, secretHalf, publicHalf, found, if_true]

/-- A seed whose keypair is in order. -/
def sampleSeed : Seed := ⟨⟨List.replicate 32 0x09, rfl⟩⟩

/-- The P-256 key of the base point. -/
def unitKey : SecretKey := ⟨.p256, ⟨List.replicate 31 0x00 ++ [0x01], rfl⟩⟩

/-- The bytes of no key. -/
def zeroKey : SecretKey := ⟨.p256, ⟨List.replicate 32 0x00, rfl⟩⟩

/-- A key whose signatures hold, a key whose signatures are not checked and a key that is
refused. -/
theorem sampleSeed_sign_agrees_with_publicKey :
    (∃ publicKey signature,
      sampleSeed.secretKey.publicKey = .ok publicKey ∧
      sampleSeed.secretKey.sign .text [0x61] = .ok signature ∧
      signature.verify .text [0x61] publicKey = .ok ()) ∧
    (∃ publicKey signature,
      unitKey.publicKey = .ok publicKey ∧ unitKey.sign .text [0x61] = .ok signature ∧
      signature.verify .text [0x61] publicKey = .error (.unsupportedKeyType .p256)) ∧
    zeroKey.sign .text [0x61] = .error (.invalidKey .p256 .rejected) := by
  have agrees (key : SecretKey) := sign_agrees_with_publicKey key .text [0x61]
  refine ⟨?checked, ?unchecked, ?refused⟩
  case checked =>
    have found : seedOfKeypair sampleSeed.secretKey.bytes = .ok sampleSeed.bytes :=
      seedOfKeypair_secretKey (by decide +kernel)
    have derived := publicKey_of_seedOfKeypair found
    have signed := (sign_eq_ok_iff sampleSeed.secretKey .text [0x61] _).mpr (.ed25519 found)
    have own : sampleSeed.secretKey.ChecksOwn (Watermark.text.signingDigest [0x61]) := by
      intro seed other
      obtain rfl := Except.ok.inj (found.symm.trans other)
      decide +kernel
    obtain ⟨-, edwards, -⟩ := (agrees sampleSeed.secretKey).2.2.1 _ _ signed derived
    exact ⟨_, _, derived, signed, ((edwards rfl).2.1 own).1⟩
  case unchecked =>
    have found : scalarOfBytes .p256 Ecdsa.p256 unitKey.bytes = .ok 1 := by rfl
    have derived : unitKey.publicKey = .ok ⟨.p256, Ecdsa.publicKey Ecdsa.p256 1⟩ :=
      Except.bind_eq_ok_iff.mpr ⟨1, found, rfl⟩
    have completes : unitKey.Completes (Watermark.text.signingDigest [0x61]) := by
      intro secret other
      obtain rfl := Except.ok.inj (found.symm.trans other)
      decide +kernel
    cases answer : unitKey.sign .text [0x61] with
    | error error =>
        cases derived.symm.trans ((agrees unitKey).2.1 completes error answer)
    | ok signature =>
        obtain ⟨-, -, others⟩ := (agrees unitKey).2.2.1 _ _ answer derived
        exact ⟨_, _, derived, rfl, (others nofun).2⟩
  case refused =>
    have failed : zeroKey.publicKey = .error (.invalidKey .p256 .rejected) := by rfl
    exact ((agrees zeroKey).1 _ failed).2

end SecretKey

end OperationForge
