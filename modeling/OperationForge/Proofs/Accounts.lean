import OperationForge.Proofs.Addresses
import OperationForge.Proofs.Points
import OperationForge.Proofs.Texts

/-!
# Accounts of keys

The account of a key is named by a hash.  It can be taken of the bytes of the key as they
stand, or of those of its point once the key has been taken as one.  The second way is
open only to Ed25519 keys that have a point, and then leads to the same account.  All other
keys are refused: for their bytes where a point is looked for and there is none, and for
their curve otherwise.
-/

namespace OperationForge

namespace PublicKey

variable {key : PublicKey} {point : CurvePoint}

/-- A point has the bytes of the key.  On P-256 none is looked for. -/
def HasPoint : PublicKey → Prop
  | ⟨.ed25519, bytes⟩ => (Edwards25519.Point.decompress? bytes).isSome = true
  | ⟨.secp256k1, bytes⟩ => (Weierstrass.Point.decompress? Secp256k1.curve bytes).isSome = true
  | ⟨.p256, _⟩ => False

instance : DecidablePred HasPoint := fun key =>
  match key with
  | ⟨.ed25519, bytes⟩ =>
      inferInstanceAs (Decidable ((Edwards25519.Point.decompress? bytes).isSome = true))
  | ⟨.secp256k1, bytes⟩ =>
      inferInstanceAs
        (Decidable ((Weierstrass.Point.decompress? Secp256k1.curve bytes).isSome = true))
  | ⟨.p256, _⟩ => inferInstanceAs (Decidable False)

theorem hasPoint_iff : key.HasPoint ↔ ∃ point, key.toPoint = .ok point := by
  rcases key with ⟨curve, bytes⟩
  cases curve with
  | ed25519 =>
      cases found : Edwards25519.Point.decompress? bytes with
      | none => simp [HasPoint, toPoint, found]
      | some affine => simp [HasPoint, toPoint, found]
  | secp256k1 =>
      cases found : Weierstrass.Point.decompress? Secp256k1.curve bytes with
      | none => simp [HasPoint, toPoint, found]
      | some affine => simp [HasPoint, toPoint, found]
  | p256 => simp [HasPoint, toPoint]

/-- Where a point is looked for and there is none, the bytes of the key are at fault. -/
theorem exists_fault_of_not_hasPoint (sought : key.curve ≠ .p256) (pointless : ¬key.HasPoint) :
    ∃ fault, key.toPoint = .error (.invalidKey key.curve fault) := by
  rcases key with ⟨curve, bytes⟩
  cases curve with
  | ed25519 =>
      have none := Option.not_isSome_iff_eq_none.mp pointless
      exact ⟨.notOnCurve, by rw [toPoint, none]⟩
  | secp256k1 =>
      have none := Option.not_isSome_iff_eq_none.mp pointless
      exact ⟨.rejected, by rw [toPoint, none]⟩
  | p256 => exact absurd rfl sought

end PublicKey

namespace Address

variable {key : PublicKey} {point : CurvePoint} {error : KeyError} {address : Address}

theorem ofPublicKey_of_toPoint_error (failed : key.toPoint = .error error) :
    ofPublicKey key = .error (.key error) := by
  rw [ofPublicKey, failed]
  rfl

/-- An Edwards point has kept the bytes of the key, so that their hash is that of the key. -/
theorem ofPublicKey_of_toPoint (taken : key.toPoint = .ok point) :
    ofPublicKey key =
      if key.curve = .ed25519 then .ok (implicit (.ofPublicKey key))
      else .error (.key (.unsupportedCurve key.curve)) := by
  rw [ofPublicKey, taken]
  rcases key with ⟨curve, bytes⟩
  cases curve with
  | ed25519 =>
      obtain ⟨affine, -, rfl⟩ := PublicKey.toPoint_ed25519_eq_ok_iff.mp taken
      rfl
  | secp256k1 =>
      obtain ⟨affine, -, rfl⟩ := PublicKey.toPoint_secp256k1_eq_ok_iff.mp taken
      rfl
  | p256 => cases taken

/-- A key on another curve is refused for the curve, unless its bytes are at fault. -/
theorem ofPublicKey_of_unsupported
    (unsupported : key.curve = .secp256k1 ∧ key.HasPoint ∨ key.curve = .p256) :
    ofPublicKey key = .error (.key (.unsupportedCurve key.curve)) := by
  cases unsupported with
  | inl pointed =>
      obtain ⟨point, taken⟩ := PublicKey.hasPoint_iff.mp pointed.2
      rw [ofPublicKey_of_toPoint taken, pointed.1]
      rfl
  | inr other =>
      rw [ofPublicKey_of_toPoint_error (PublicKey.toPoint_of_curve_eq other), other]

theorem ofPublicKey_eq_ok_iff (key : PublicKey) (address : Address) :
    ofPublicKey key = .ok address ↔
      key.curve = .ed25519 ∧ key.HasPoint ∧ address = implicit (.ofPublicKey key) := by
  constructor
  · intro derived
    cases taken : key.toPoint with
    | error error =>
        rw [ofPublicKey_of_toPoint_error taken] at derived
        cases derived
    | ok point =>
        rw [ofPublicKey_of_toPoint taken] at derived
        split at derived
        · next edwards =>
            cases derived
            exact ⟨edwards, PublicKey.hasPoint_iff.mpr ⟨point, taken⟩, rfl⟩
        · cases derived
  · rintro ⟨edwards, has, rfl⟩
    obtain ⟨point, taken⟩ := PublicKey.hasPoint_iff.mp has
    rw [ofPublicKey_of_toPoint taken, if_pos edwards]

/-- An Ed25519 key that has a point belongs to the account that its hash names, which is
also that of the point, and no other key has an account here.  Keys whose bytes should have
a point and have none are refused for that, as wherever a point is asked for, and keys on
the other curves for the curve.  The address of a key can be shown and read back, and
on the wire the hash of the key stands behind two zeros. -/
theorem ofPublicKey_iff_hasPoint :
    (∀ key address, ofPublicKey key = .ok address ↔
      key.curve = .ed25519 ∧ key.HasPoint ∧ address = implicit (.ofPublicKey key)) ∧
    (∀ key : PublicKey, key.curve ≠ .p256 → ¬key.HasPoint → ∃ fault,
      key.toPoint = .error (.invalidKey key.curve fault) ∧
        ofPublicKey key = .error (.key (.invalidKey key.curve fault))) ∧
    (∀ key : PublicKey, key.curve = .secp256k1 ∧ key.HasPoint ∨ key.curve = .p256 →
      ofPublicKey key = .error (.key (.unsupportedCurve key.curve))) ∧
    ∀ key address, ofPublicKey key = .ok address →
      (∃ point, key.toPoint = .ok point ∧
        address = implicit (.ofPublicKey (PublicKey.ofPoint point))) ∧
      ofText address.text = .ok address ∧
      ∃ block : FixedBytes 22, format.encode address = .ok block.toList ∧
        block.toList = 0x00 :: 0x00 :: (Blake2b.digest160 key.bytes.toList).toList := by
  refine ⟨ofPublicKey_eq_ok_iff, ?pointless, fun _ => ofPublicKey_of_unsupported, ?derived⟩
  case pointless =>
    intro key sought pointless
    obtain ⟨fault, failed⟩ := PublicKey.exists_fault_of_not_hasPoint sought pointless
    exact ⟨fault, failed, ofPublicKey_of_toPoint_error failed⟩
  case derived =>
    intro key address derived
    obtain ⟨edwards, has, rfl⟩ := (ofPublicKey_eq_ok_iff key address).mp derived
    obtain ⟨point, taken⟩ := PublicKey.hasPoint_iff.mp has
    refine ⟨⟨point, taken, ?_⟩, TextType.ofText_text .address _, bytes _, encode_eq _, ?_⟩
    · have uncompact : ¬key.IsCompact := by
        rcases key with ⟨curve, bytes⟩
        cases edwards
        exact id
      rw [PublicKey.ofPoint_of_toPoint taken, PublicKey.compressed_eq_iff.mpr uncompact]
    · simp [bytes, KeyHash.bytes, KeyHash.ofPublicKey, PublicKey.hash, edwards, Curve.tag]

/-- A key on Ed25519. -/
def ownerKey : PublicKey :=
  ⟨.ed25519, ⟨[0x47, 0x98, 0xd2, 0xcc, 0x98, 0x47, 0x3d, 0x7e, 0x25, 0x0c, 0x89, 0x88, 0x85, 0x71,
    0x8a, 0xfd, 0x2e, 0x4e, 0xfb, 0xcb, 0x1a, 0x15, 0x95, 0xab, 0x97, 0x30, 0x76, 0x1e, 0xd8, 0x30,
    0xde, 0x0f], rfl⟩⟩

/-- The account of a key, and keys that have none here: no point of Ed25519 has the height
two and none of secp256k1 the abscissa zero, the base point of secp256k1 is not on Ed25519,
and bytes for a key on P-256 are not looked at. -/
theorem ownerKey_ofPublicKey_iff_hasPoint :
    (∃ address, ofPublicKey ownerKey = .ok address ∧
      address.text = "tz1KqTpEZ7Yob7QbPE4Hy4Wo8fHG8LhKxZSx" ∧ ofText address.text = .ok address) ∧
    (∃ fault, ofPublicKey ⟨.ed25519, ⟨0x02 :: List.replicate 31 0x00, rfl⟩⟩ =
      .error (.key (.invalidKey .ed25519 fault))) ∧
    (∃ fault, ofPublicKey ⟨.secp256k1, ⟨0x02 :: List.replicate 32 0x00, rfl⟩⟩ =
      .error (.key (.invalidKey .secp256k1 fault))) ∧
    ofPublicKey (PublicKey.baseKey 2) = .error (.key (.unsupportedCurve .secp256k1)) ∧
    ofPublicKey ⟨.p256, ⟨List.replicate 33 0x00, rfl⟩⟩ =
      .error (.key (.unsupportedCurve .p256)) := by
  obtain ⟨accepted, pointless, unsupported, derived⟩ := ofPublicKey_iff_hasPoint
  have own : ofPublicKey ownerKey = .ok (implicit (.ofPublicKey ownerKey)) :=
    (accepted _ _).mpr ⟨rfl, by decide +kernel, rfl⟩
  refine ⟨⟨_, own, by decide +kernel, (derived _ _ own).2.1⟩, ?edwards, ?weierstrass, ?base,
    ?foreign⟩
  case edwards =>
    obtain ⟨fault, -, refused⟩ := pointless ⟨.ed25519, ⟨0x02 :: List.replicate 31 0x00, rfl⟩⟩
      (by decide) (by decide +kernel)
    exact ⟨fault, refused⟩
  case weierstrass =>
    obtain ⟨fault, -, refused⟩ := pointless ⟨.secp256k1, ⟨0x02 :: List.replicate 32 0x00, rfl⟩⟩
      (by decide) (by decide +kernel)
    exact ⟨fault, refused⟩
  case base => exact unsupported _ (.inl ⟨rfl, by decide +kernel⟩)
  case foreign => exact unsupported _ (.inr rfl)

end Address

end OperationForge
