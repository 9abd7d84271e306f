import OperationForge.Account.Origin
import OperationForge.Proofs.Digits

/-!
# Keys and their points

A point gives back the bytes of the key it was made from, with one exception.  The bytes
of a secp256k1 key may be an abscissa alone, tagged `05`, which stands for the point with
even `y`.  Points are always written with their parity, so that such a key comes back as
the key tagged `02`.  The two keys have the same point, and different hashes as far as
hashes go.
-/

namespace OperationForge

namespace Residue

variable {modulus : Nat} [IsModulus modulus]

@[simp] theorem power_one (exponent : Nat) : power (1 : Fin modulus) exponent = 1 := by
  fun_induction power (1 : Fin modulus) exponent with
  | case1 => rfl
  | case2 exponent positive root odd ih => simp only [root, ih, Fin.mul_one]
  | case3 exponent positive root even ih => simp only [root, ih, Fin.mul_one]

@[simp] theorem inverse_one : inverse (1 : Fin modulus) = 1 :=
  power_one (modulus - 2)

omit [IsModulus modulus] in
/-- The parity is as asked. -/
theorem isOdd_of_withParity? {odd : Bool} {residue chosen : Fin modulus}
    (found : withParity? odd residue = some chosen) : isOdd chosen = odd := by
  have asked := List.find?_some found
  exact eq_of_beq asked

end Residue

namespace Weierstrass

variable {modulus : Nat}

namespace Curve

/-! ## Tags -/

/-- The tag of the same point with its parity. -/
def compressedTag (tag : UInt8) : UInt8 := if tag = 5 then 2 else tag

theorem compressedTag_eq_iff {tag : UInt8} : compressedTag tag = tag ↔ tag ≠ 5 := by
  constructor
  · intro same compact
    rw [compact] at same
    cases same
  · intro other
    exact if_neg other

@[simp] theorem parityOfTag?_compressedTag (tag : UInt8) :
    parityOfTag? (compressedTag tag) = parityOfTag? tag := by
  by_cases compact : tag = 5
  · rw [compact]
    rfl
  · rw [compressedTag_eq_iff.mpr compact]

theorem parityTag_of_parityOfTag? {tag : UInt8} {odd : Bool}
    (told : parityOfTag? tag = some odd) : parityTag odd = compressedTag tag := by
  simp only [parityOfTag?] at told
  split at told
  · next even =>
      cases told
      cases even with
      | inl compressed | inr compressed =>
          rw [compressed]
          rfl
  · split at told
    · next compressed =>
        cases told
        rw [compressed]
        rfl
    · cases told

variable [Residue.IsModulus modulus] {curve : Curve modulus}

theorem isOdd_of_heightAt? {odd : Bool} {x y : Fin modulus}
    (found : curve.heightAt? odd x = some y) : Residue.isOdd y = odd := by
  obtain ⟨root, -, chosen⟩ := Option.bind_eq_some_iff.mp found
  exact Residue.isOdd_of_withParity? chosen

end Curve

namespace Point

/-! ## Forms of 33 bytes -/

/-- The bytes with the tag of the same point with its parity. -/
def compressed (bytes : FixedBytes 33) : FixedBytes 33 :=
  ⟨bytes.toList.modifyHead Curve.compressedTag, by simp⟩

theorem compressed_eq_iff {bytes : FixedBytes 33} :
    compressed bytes = bytes ↔ bytes.toList.head? ≠ some 0x05 := by
  rw [FixedBytes.ext_iff]
  cases shape : bytes.toList with
  | nil => simp [compressed, shape]
  | cons tag digits => simp [compressed, shape, Curve.compressedTag_eq_iff]

variable [Residue.IsModulus modulus] {curve : Curve modulus} {bytes : FixedBytes 33}
variable {point : Point modulus}

@[simp] theorem affineX_ofAffine (x y : Fin modulus) : (ofAffine x y).affineX = x := by
  simp only [affineX, ofAffine, Residue.inverse_one, Fin.mul_one]

@[simp] theorem affineY_ofAffine (x y : Fin modulus) : (ofAffine x y).affineY = y := by
  simp only [affineY, ofAffine, Residue.inverse_one, Fin.mul_one]

/-- Only the parity that the tag tells matters. -/
theorem decompress?_compressed (curve : Curve modulus) (bytes : FixedBytes 33) :
    decompress? curve (compressed bytes) = decompress? curve bytes := by
  cases shape : bytes.toList with
  | nil => simp [decompress?, compressed, shape]
  | cons tag digits => simp [decompress?, compressed, shape]

/-- The bytes of a point are a tag and its `x`, and its `y` has the parity of the tag. -/
theorem exists_of_decompress? (found : decompress? curve bytes = some point) :
    ∃ tag digits odd, ∃ below : BigEndian.decode digits < modulus, ∃ y,
      bytes.toList = tag :: digits ∧ Curve.parityOfTag? tag = some odd ∧
      curve.heightAt? odd ⟨BigEndian.decode digits, below⟩ = some y ∧
      point = ofAffine ⟨BigEndian.decode digits, below⟩ y := by
  simp only [decompress?] at found
  split at found
  · cases found
  · next tag digits shape =>
      obtain ⟨odd, told, found⟩ := Option.bind_eq_some_iff.mp found
      split at found
      · next below =>
          obtain ⟨y, height, answer⟩ := Option.bind_eq_some_iff.mp found
          cases answer
          exact ⟨tag, digits, odd, below, y, shape, told, height, rfl⟩
      · cases found

/-- A point is written as the bytes it was read from, with its parity. -/
theorem compress_of_decompress? (found : decompress? curve bytes = some point) :
    point.compress = compressed bytes := by
  obtain ⟨tag, digits, odd, below, y, shape, told, height, rfl⟩ := exists_of_decompress? found
  have width : digits.length = 32 := by
    have total := bytes.length_toList
    rw [shape, List.length_cons] at total
    exact Nat.succ.inj total
  have written := BigEndian.encode_decode digits
  rw [width] at written
  ext1
  calc (ofAffine _ y).compress.toList
      = Curve.parityTag (Residue.isOdd y) :: BigEndian.encode 32 (BigEndian.decode digits) := by
        simp [compress]
    _ = Curve.compressedTag tag :: digits := by
        rw [Curve.isOdd_of_heightAt? height, Curve.parityTag_of_parityOfTag? told, written]
    _ = (compressed bytes).toList := by simp [compressed, shape]

end Point

end Weierstrass

namespace PublicKey

open Weierstrass (Point)

variable {key : PublicKey} {point : CurvePoint}

/-! ## Keys -/

/-- The bytes of the key are an abscissa without parity. -/
def IsCompact : PublicKey → Prop
  | ⟨.secp256k1, bytes⟩ => bytes.toList.head? = some 0x05
  | ⟨.ed25519, _⟩ | ⟨.p256, _⟩ => False

/-- The key of the same point whose bytes tell the parity. -/
def compressed : PublicKey → PublicKey
  | ⟨.secp256k1, bytes⟩ => ⟨.secp256k1, Point.compressed bytes⟩
  | ⟨.ed25519, bytes⟩ => ⟨.ed25519, bytes⟩
  | ⟨.p256, bytes⟩ => ⟨.p256, bytes⟩

theorem compressed_eq_iff : key.compressed = key ↔ ¬ key.IsCompact := by
  rcases key with ⟨curve, bytes⟩
  cases curve with
  | secp256k1 =>
      have bytewise := @Point.compressed_eq_iff bytes
      constructor
      · intro same
        exact bytewise.mp (eq_of_heq (mk.inj same).2)
      · intro uncompact
        exact congrArg (mk .secp256k1) (bytewise.mpr uncompact)
  | ed25519 | p256 => simp [compressed, IsCompact]

theorem toPoint_compressed (key : PublicKey) : key.compressed.toPoint = key.toPoint := by
  rcases key with ⟨curve, bytes⟩
  cases curve with
  | secp256k1 =>
      simp only [compressed, toPoint]
      rw [Point.decompress?_compressed Secp256k1.curve bytes]
  | ed25519 | p256 => rfl

theorem toPoint_ed25519_eq_ok_iff {bytes : FixedBytes 32} :
    toPoint ⟨.ed25519, bytes⟩ = .ok point ↔
      ∃ affine, Edwards25519.Point.decompress? bytes = some affine ∧
        .ed25519 bytes affine = point := by
  simp only [toPoint]
  cases Edwards25519.Point.decompress? bytes with
  | none => simp
  | some affine => simp

theorem toPoint_secp256k1_eq_ok_iff {bytes : FixedBytes 33} :
    toPoint ⟨.secp256k1, bytes⟩ = .ok point ↔
      ∃ affine, Point.decompress? Secp256k1.curve bytes = some affine ∧
        .secp256k1 affine = point := by
  simp only [toPoint]
  cases Point.decompress? Secp256k1.curve bytes with
  | none => simp
  | some affine => simp

theorem ofPoint_of_toPoint (taken : key.toPoint = .ok point) : ofPoint point = key.compressed := by
  rcases key with ⟨curve, bytes⟩
  cases curve with
  | ed25519 =>
      obtain ⟨affine, -, rfl⟩ := toPoint_ed25519_eq_ok_iff.mp taken
      rfl
  | secp256k1 =>
      obtain ⟨affine, found, rfl⟩ := toPoint_secp256k1_eq_ok_iff.mp taken
      rw [ofPoint, compressed, Point.compress_of_decompress? found]
  | p256 => cases taken

theorem toPoint_of_curve_eq (other : key.curve = .p256) :
    key.toPoint = .error (.unsupportedCurve .p256) := by
  rcases key with ⟨curve, bytes⟩
  cases other
  rfl

/-- The point of a key gives the key back exactly if the key is not compact.  What comes
back otherwise is another key, of the same point, and it is the one that comes back from
every key of the point.  P-256 keys have no points, whatever their bytes are. -/
theorem ofPoint_toPoint (key : PublicKey) :
    (∀ point, key.toPoint = .ok point →
      (ofPoint point = key ↔ ¬ key.IsCompact) ∧
      ofPoint point = key.compressed ∧ key.compressed.toPoint = .ok point ∧
      ∀ other : PublicKey, other.toPoint = .ok point → other.compressed = key.compressed) ∧
    (key.curve = .p256 → key.toPoint = .error (.unsupportedCurve .p256)) := by
  refine ⟨?points, toPoint_of_curve_eq⟩
  intro point taken
  have returned := ofPoint_of_toPoint taken
  refine ⟨?_, returned, (toPoint_compressed key).trans taken, ?_⟩
  · rw [returned]
    exact compressed_eq_iff
  · intro other same
    rw [← returned]
    exact (ofPoint_of_toPoint same).symm

/-- The abscissa of the base point of secp256k1, behind a tag. -/
def baseKey (tag : UInt8) : PublicKey :=
  ⟨.secp256k1, ⟨tag :: BigEndian.encode 32 Secp256k1.curve.base.x.val, rfl⟩⟩

theorem exists_toPoint_baseKey : ∃ point, (baseKey 2).toPoint = .ok point := by
  have found : (Point.decompress? Secp256k1.curve (baseKey 2).bytes).isSome = true := by
    decide +kernel
  obtain ⟨point, decompressed⟩ := Option.isSome_iff_exists.mp found
  exact ⟨.secp256k1 point, toPoint_secp256k1_eq_ok_iff.mpr ⟨point, decompressed, rfl⟩⟩

/-- The base point gives its key back. -/
theorem baseKey_ofPoint_toPoint :
    ∃ point, (baseKey 2).toPoint = .ok point ∧ ofPoint point = baseKey 2 := by
  obtain ⟨point, taken⟩ := exists_toPoint_baseKey
  have uncompact : ¬ (baseKey 2).IsCompact := by nofun
  exact ⟨point, taken, ((ofPoint_toPoint (baseKey 2)).1 point taken).1.mpr uncompact⟩

/-- The key of the base point without its parity has the point too.  It does not come back, and
is the key of another account. -/
theorem not_ofPoint_toPoint_of_isCompact :
    ∃ point, (baseKey 5).toPoint = .ok point ∧ ofPoint point ≠ baseKey 5 ∧
      KeyHash.ofPublicKey (ofPoint point) ≠ KeyHash.ofPublicKey (baseKey 5) := by
  obtain ⟨point, taken⟩ := exists_toPoint_baseKey
  have compressed : (baseKey 5).compressed = baseKey 2 := by rfl
  have compact : (baseKey 5).toPoint = .ok point := by
    rw [← toPoint_compressed, compressed, taken]
  have returned : ofPoint point = baseKey 2 := (ofPoint_of_toPoint compact).trans compressed
  refine ⟨point, compact, ?_, ?_⟩
  · rw [returned]
    decide
  · rw [returned]
    decide +kernel

end PublicKey

end OperationForge
