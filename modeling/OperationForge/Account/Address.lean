import OperationForge.Base58.Checked
import OperationForge.Key.Curve
import OperationForge.Wire.Format

/-!
# Addresses of accounts

An implicit account belongs to a key and is named by the hash of that key.  An originated account
belongs to a contract and is named by a hash of its own.  On the wire both take up 22 bytes.
-/

namespace OperationForge

/-- The hash of a public key, with the curve of the key. -/
@[ext] structure KeyHash where
  curve : Curve
  hash : FixedBytes 20
  deriving DecidableEq

/-- Who controls an account. -/
inductive AccountKind where
  | implicit
  | originated
  deriving DecidableEq, Repr

/-- The address of an account. -/
inductive Address where
  | implicit (owner : KeyHash)
  | originated (hash : FixedBytes 20)
  deriving DecidableEq

namespace KeyHash

/-- The tag of the curve, and then the hash. -/
def format : Format KeyHash where
  read := do
    let curve ← Reader.choose .keyHash Curve.ofTag?
    let hash ← Reader.take 20
    pure ⟨curve, hash⟩
  write owner := .wrote [owner.curve.tag] ++ .wrote owner.hash.toList

/-- The text of a key hash. -/
def text (owner : KeyHash) : String :=
  Base58.textOf owner.curve.keyHashKind owner.hash.toList

end KeyHash

namespace Address

/-- Who controls the account. -/
def kind : Address → AccountKind
  | implicit _ => .implicit
  | originated _ => .originated

/-- The hash of the key that an implicit account belongs to. -/
def keyHash? : Address → Option KeyHash
  | implicit owner => some owner
  | originated _ => none

/-- The kind of account that a byte stands for. -/
def kindOfTag? (tag : UInt8) : Option AccountKind :=
  if tag = 0 then some .implicit else if tag = 1 then some .originated else none

/-- The byte after the hash of an originated account, which is zero. -/
def readPadding : Reader Unit :=
  Reader.choose .addressPadding fun byte => if byte = 0 then some () else none

/-- `00` and a key hash, or `01`, the hash of the contract and `00`. -/
def format : Format Address where
  read := do
    match ← Reader.choose .address kindOfTag? with
    | .implicit => implicit <$> KeyHash.format.read
    | .originated => do
        let hash ← Reader.take 20
        readPadding
        pure (originated hash)
  write
    | implicit owner => .wrote [0] ++ KeyHash.format.write owner
    | originated hash => .wrote [1] ++ .wrote hash.toList ++ .wrote [0]

/-- The text of an address. -/
def text : Address → String
  | implicit owner => owner.text
  | originated hash => Base58.textOf .contractHash hash.toList

end Address

end OperationForge
