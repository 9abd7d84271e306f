import OperationForge.Group.P256
import OperationForge.Group.Secp256k1
import OperationForge.Hash.Hmac

/-!
# Deterministic ECDSA signatures

A signature of a 32 byte digest is the numbers `r` and `s`, each in 32 bytes.  The nonce is not
random: a generator made of keyed hashes draws it from the secret scalar and the digest, so that
signing is a function.
-/

namespace OperationForge.Ecdsa

/-- A curve to sign on. -/
structure Scheme where
  modulus : Nat
  [modulus_ne_zero : Residue.IsModulus modulus]
  curve : Weierstrass.Curve modulus
  order_pos : 0 < curve.order
  /-- Whether `s` is replaced by its negative when that is smaller. -/
  lowS : Bool

attribute [instance] Scheme.modulus_ne_zero

/-- Signatures on secp256k1 have the smaller `s`. -/
def secp256k1 : Scheme where
  modulus := Secp256k1.fieldSize
  curve := Secp256k1.curve
  order_pos := by decide
  lowS := true

/-- Signatures on P-256 keep `s` as it comes out. -/
def p256 : Scheme where
  modulus := P256.fieldSize
  curve := P256.curve
  order_pos := by decide
  lowS := false

/-- The key and the value of a nonce generator. -/
structure Generator where
  key : Bytes
  value : Bytes

namespace Generator

/-- Takes `input` into the key, and renews the value. -/
def update (generator : Generator) (input : Bytes) : Generator :=
  let key := (Hmac.code generator.key (generator.value ++ input)).toList
  ⟨key, (Hmac.code key generator.value).toList⟩

/-- The generator for a secret scalar and a reduced digest, each in 32 bytes. -/
def start (secret digest : Bytes) : Generator :=
  let fresh : Generator := ⟨List.replicate 32 0x00, List.replicate 32 0x01⟩
  (fresh.update (0x00 :: secret ++ digest)).update (0x01 :: secret ++ digest)

/-- The first number from 1 up to `order` that comes out within `attempts` draws. -/
def draw? (order : Nat) : (attempts : Nat) → Generator → Option Nat
  | 0, _ => none
  | attempts + 1, generator =>
      let value := (Hmac.code generator.key generator.value).toList
      let candidate := BigEndian.decode value
      if 0 < candidate ∧ candidate < order then some candidate
      else draw? order attempts (update ⟨generator.key, value⟩ [0x00])

end Generator

variable (scheme : Scheme)

/-- The number of points of the curve. -/
def Scheme.order : Nat := scheme.curve.order

/-- How many nonce candidates are tried.  One candidate is refused with a chance of less than one in
four thousand millions. -/
def nonceAttempts : Nat := 256

/-- The nonce for a secret scalar and a digest. -/
def nonce? (secret : Nat) (digest : Bytes) : Option Nat :=
  let reduced := BigEndian.encode 32 (BigEndian.decode digest % scheme.order)
  (Generator.start (BigEndian.encode 32 secret) reduced).draw? scheme.order nonceAttempts

/-- Whether a number is a secret scalar. -/
def isSecret (secret : Nat) : Bool := 0 < secret && secret < scheme.order

/-- The compressed public key of a secret scalar. -/
def publicKey (secret : Nat) : FixedBytes 33 :=
  (scheme.curve.times scheme.curve.base secret).compress

/-- The inverse of a scalar other than zero. -/
def inverseScalar (scalar : Nat) : Nat :=
  have : Residue.IsModulus scheme.order := ⟨Nat.pos_iff_ne_zero.mp scheme.order_pos⟩
  (Residue.inverse (Fin.ofNat scheme.order scalar)).val

/-- The signature of a digest under a secret scalar.  There is none if no nonce is found, or if one
of its numbers comes out as zero. -/
def sign? (secret : Nat) (digest : Bytes) : Option (FixedBytes 64) := do
  let nonce ← nonce? scheme secret digest
  let point := scheme.curve.times scheme.curve.base nonce
  let r := point.affineX.val % scheme.order
  let s := inverseScalar scheme nonce * (BigEndian.decode digest + r * secret) % scheme.order
  if r = 0 ∨ s = 0 then
    none
  else
    let s := if scheme.lowS && scheme.order < 2 * s then scheme.order - s else s
    return (BigEndian.fixed 32 r).append (BigEndian.fixed 32 s)

end OperationForge.Ecdsa
