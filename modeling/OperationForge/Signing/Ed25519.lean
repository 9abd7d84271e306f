import OperationForge.Group.Edwards25519
import OperationForge.Hash.Sha512

/-!
# Ed25519 signatures

A seed of 32 bytes determines the secret scalar, the public key and every signature.  A signature
is the compressed point `R` and then the scalar `S`, each in 32 bytes.  It holds for a key `A` and
a message if `S` is reduced and `S B - k A` compresses to the bytes of `R`, where `k` is the hash of
`R`, the key and the message.
-/

namespace OperationForge.Ed25519

open Edwards25519 (Point groupOrder)

/-- The first half of the hash of a seed, as a multiple of eight with top bit 254. -/
def secretScalar (seed : FixedBytes 32) : Nat :=
  let half := (Sha512.digest seed.toList).toList.take 32
  Nat.pow 2 254 + LittleEndian.decode half % Nat.pow 2 254 / 8 * 8

/-- The second half of the hash of a seed, from which nonces are derived. -/
def nonceKey (seed : FixedBytes 32) : Bytes :=
  (Sha512.digest seed.toList).toList.drop 32

/-- The public key of a seed. -/
def publicKey (seed : FixedBytes 32) : FixedBytes 32 :=
  (Point.base.times (secretScalar seed)).compress

/-- The hash of a byte string as a scalar. -/
def scalarHash (bytes : Bytes) : Nat :=
  LittleEndian.decode (Sha512.digest bytes).toList % groupOrder

/-- The scalar that binds a signature to its key and message. -/
def challenge (commitment key message : Bytes) : Nat :=
  scalarHash (commitment ++ key ++ message)

/-- The signature of a message under a seed. -/
def sign (seed : FixedBytes 32) (message : Bytes) : FixedBytes 64 :=
  let nonce := scalarHash (nonceKey seed ++ message)
  let commitment := (Point.base.times nonce).compress
  let k := challenge commitment.toList (publicKey seed).toList message
  commitment.append (LittleEndian.fixed 32 ((nonce + k * secretScalar seed) % groupOrder))

/-- Whether a signature holds for a key, given with its point, and a message. -/
def verify (key : FixedBytes 32) (point : Point) (message : Bytes) (signature : FixedBytes 64) :
    Bool :=
  let commitment := signature.toList.take 32
  let s := LittleEndian.decode (signature.toList.drop 32)
  let k := challenge commitment key.toList message
  s < groupOrder && (Point.base.times s - point.times k).compress.toList == commitment

end OperationForge.Ed25519
