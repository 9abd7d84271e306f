import OperationForge.Key.Signing
import OperationForge.Proofs.Results

/-!
# Signatures made and checked

Of a message and its watermark nothing but the digest enters a signature.  A check
looks at the label first, and all labels that it takes are alike to it.  Then it asks
for the curve, and only Ed25519 keys get any further.  Whether such a key takes what
its own secret key has signed is a fact about the curve, which is assumed here where
it is needed.
-/

namespace OperationForge

/-- Under the public key of the seed the signature holds that the seed gives. -/
def Ed25519.ChecksOwn (seed : FixedBytes 32) (message : Bytes) : Prop :=
  ∀ point, Edwards25519.Point.decompress? (publicKey seed) = some point →
    verify (publicKey seed) point message (sign seed message) = true

instance (seed : FixedBytes 32) (message : Bytes) : Decidable (Ed25519.ChecksOwn seed message) :=
  decidable_of_iff
    ((Edwards25519.Point.decompress? (Ed25519.publicKey seed)).all fun point =>
      Ed25519.verify (Ed25519.publicKey seed) point message (Ed25519.sign seed message))
    (by simp [Ed25519.ChecksOwn, Option.all_eq_true])

namespace SecretKey

/-! ## Keys that sign -/

/-- What keys make of a digest.  Ed25519 keys label it with their curve, and keys on
the other curves do not tell theirs. -/
inductive Signs (digest : FixedBytes 32) : SecretKey → Signature → Prop where
  | ed25519 {pair : FixedBytes 64} {seed : FixedBytes 32} :
      seedOfKeypair pair = .ok seed →
      Signs digest ⟨.ed25519, pair⟩ ⟨.onCurve .ed25519, Ed25519.sign seed digest.toList⟩
  | secp256k1 {bytes : FixedBytes 32} {secret : Nat} {signature : FixedBytes 64} :
      scalarOfBytes .secp256k1 Ecdsa.secp256k1 bytes = .ok secret →
      Ecdsa.sign? Ecdsa.secp256k1 secret digest.toList = some signature →
      Signs digest ⟨.secp256k1, bytes⟩ ⟨.generic, signature⟩
  | p256 {bytes : FixedBytes 32} {secret : Nat} {signature : FixedBytes 64} :
      scalarOfBytes .p256 Ecdsa.p256 bytes = .ok secret →
      Ecdsa.sign? Ecdsa.p256 secret digest.toList = some signature →
      Signs digest ⟨.p256, bytes⟩ ⟨.generic, signature⟩

/-- A signature of a message is one of the digest of message and watermark. -/
theorem sign_eq_ok_iff (key : SecretKey) (mark : Watermark) (message : Bytes)
    (signature : Signature) :
    key.sign mark message = .ok signature ↔ key.Signs (mark.signingDigest message) signature := by
  constructor
  · intro signed
    rcases key with ⟨curve, bytes⟩
    cases curve with
    | ed25519 =>
        rcases Except.bind_eq_ok_iff.mp signed with ⟨seed, found, answer⟩
        cases answer
        exact .ed25519 found
    | secp256k1 =>
        rcases Except.bind_eq_ok_iff.mp signed with ⟨secret, found, answer⟩
        split at answer
        · next made =>
            cases answer
            exact .secp256k1 found made
        · cases answer
    | p256 =>
        rcases Except.bind_eq_ok_iff.mp signed with ⟨secret, found, answer⟩
        split at answer
        · next made =>
            cases answer
            exact .p256 found made
        · cases answer
  · intro signs
    cases signs with
    | ed25519 found => exact Except.bind_eq_ok_iff.mpr ⟨_, found, rfl⟩
    | secp256k1 found made => exact Except.bind_eq_ok_iff.mpr ⟨_, found, by rw [made]; rfl⟩
    | p256 found made => exact Except.bind_eq_ok_iff.mpr ⟨_, found, by rw [made]; rfl⟩

/-! ## Keys and their public halves -/

/-- The public half of a keypair in order is the public key of its seed, and a point. -/
theorem exists_point_of_seedOfKeypair {pair : FixedBytes 64} {seed : FixedBytes 32}
    (found : seedOfKeypair pair = .ok seed) :
    ∃ point, Edwards25519.Point.decompress? (Ed25519.publicKey seed) = some point := by
  simp only [seedOfKeypair] at found
  split at found
  · cases found
  · next point decompressed =>
      split at found
      · next same =>
          cases found
          rw [same]
          exact ⟨point, decompressed⟩
      · cases found

theorem curve_of_publicKey {key : SecretKey} {publicKey : PublicKey}
    (derived : key.publicKey = .ok publicKey) : publicKey.curve = key.curve := by
  rcases key with ⟨curve, bytes⟩
  cases curve <;>
    · rcases Except.bind_eq_ok_iff.mp derived with ⟨_, -, answer⟩
      cases answer
      rfl

theorem publicKey_of_seedOfKeypair {pair : FixedBytes 64} {seed : FixedBytes 32}
    (found : seedOfKeypair pair = .ok seed) :
    publicKey ⟨.ed25519, pair⟩ = .ok ⟨.ed25519, Ed25519.publicKey seed⟩ :=
  Except.bind_eq_ok_iff.mpr ⟨seed, found, rfl⟩

/-- What an Ed25519 key signs holds under its public key.  Nothing is asked of the
other keys, whose signatures are not checked. -/
def ChecksOwn : SecretKey → FixedBytes 32 → Prop
  | ⟨.ed25519, pair⟩, digest =>
      ∀ seed, seedOfKeypair pair = .ok seed → Ed25519.ChecksOwn seed digest.toList
  | ⟨.secp256k1, _⟩, _ | ⟨.p256, _⟩, _ => True

end SecretKey

namespace Signature

/-! ## Checks -/

variable {signature : Signature} {mark : Watermark} {message : Bytes} {publicKey : PublicKey}

theorem checkKind_onCurve {curve : Curve} (other : curve ≠ .ed25519) :
    checkKind (.onCurve curve) = .error (.signatureTypeMismatch (.onCurve curve)) := by
  cases curve with
  | ed25519 => contradiction
  | secp256k1 | p256 => rfl

/-- The label is looked at before the key. -/
theorem verify_of_checkKind_error {error : KeyError}
    (refused : checkKind signature.kind = .error error) :
    signature.verify mark message publicKey = .error error :=
  Except.bind_eq_error_iff.mpr (.inl refused)

/-- Keys on other curves check nothing, whatever the message. -/
theorem verify_of_curve_ne (taken : checkKind signature.kind = .ok ())
    (other : publicKey.curve ≠ .ed25519) :
    signature.verify mark message publicKey = .error (.unsupportedKeyType publicKey.curve) := by
  apply Except.bind_eq_error_iff.mpr
  refine .inr ⟨(), taken, ?_⟩
  rcases publicKey with ⟨curve, bytes⟩
  cases curve with
  | ed25519 => contradiction
  | secp256k1 | p256 => rfl

theorem verify_of_point {bytes : FixedBytes 32} {point : Edwards25519.Point}
    (taken : checkKind signature.kind = .ok ())
    (decompressed : Edwards25519.Point.decompress? bytes = some point)
    (holds :
      Ed25519.verify bytes point (mark.signingDigest message).toList signature.bytes = true) :
    signature.verify mark message ⟨.ed25519, bytes⟩ = .ok () := by
  apply Except.bind_eq_ok_iff.mpr
  refine ⟨(), taken, ?_⟩
  simp only [decompressed, holds]
  rfl

/-- A key's own signature under its public key and any label that checks take: it
holds if the key is an Ed25519 key, and otherwise the key is of no use here. -/
theorem verify_of_signs {key : SecretKey} (derived : key.publicKey = .ok publicKey)
    (signs : key.Signs (mark.signingDigest message) signature)
    (own : key.ChecksOwn (mark.signingDigest message)) {kind : SignatureKind}
    (taken : checkKind kind = .ok ()) :
    (signature.relabel kind).verify mark message publicKey =
      if key.curve = .ed25519 then .ok () else .error (.unsupportedKeyType key.curve) := by
  have curves := SecretKey.curve_of_publicKey derived
  cases signs with
  | ed25519 found =>
      rw [SecretKey.publicKey_of_seedOfKeypair found] at derived
      cases derived
      rcases SecretKey.exists_point_of_seedOfKeypair found with ⟨point, decompressed⟩
      exact verify_of_point taken decompressed (own _ found point decompressed)
  | secp256k1 | p256 =>
      have other : publicKey.curve ≠ .ed25519 := by
        rw [curves]
        nofun
      rw [verify_of_curve_ne taken other, curves]
      rfl

end Signature

end OperationForge
