import OperationForge.Text.Hex
import OperationForge.Text.Utf8

/-!
# Wire errors

The causes for which a value cannot be read from the wire or written to it, and their wording.
-/

namespace OperationForge

/-- The choices on the wire that one byte decides. -/
inductive Choice where
  | bool
  | publicKey
  | keyHash
  | address
  | addressPadding
  | entrypoint
  | contents
  deriving DecidableEq, Repr

/-- How messages name a choice. -/
def Choice.label : Choice → String
  | .bool => "bool"
  | .publicKey => "public key"
  | .keyHash => "public key hash"
  | .address => "contract id"
  | .addressPadding => "contract id padding"
  | .entrypoint => "entrypoint"
  | .contents => "operation contents"

/-- Why a value could not be read from the wire or written to it. -/
inductive WireError where
  /-- A container is longer than its format allows. -/
  | overflowContainer (length : Nat)
  /-- A read would run past the end of the input. -/
  | outOfBounds
  /-- Input is left over after the value. -/
  | extraInput
  /-- The byte selects no alternative of the choice. -/
  | invalidVariant (choice : Choice) (byte : UInt8)
  /-- The tag is not the one that has to stand here. -/
  | wrongTag (expected actual : UInt8)
  /-- The continuation bits of a zarith number are misplaced. -/
  | malformedZarith
  /-- The input ends before the last byte of a zarith number. -/
  | unterminatedZarith
  /-- A negative number was given as a natural number. -/
  | negativeNatural
  /-- A text is not UTF-8. -/
  | invalidUtf8 (fault : Utf8.Fault)
  /-- An operation has no contents. -/
  | noContents
  deriving DecidableEq, Repr

/-- The wording of a wire error. -/
def WireError.message : WireError → String
  | .overflowContainer length => s!"overflow container (len {length})"
  | .outOfBounds => "out of bounds exception: would overrun end of input"
  | .extraInput => "extra unnecessary input leftover"
  | .invalidVariant choice byte => s!"invalid {choice.label} tag 0x{Hex.byte byte}"
  | .wrongTag expected actual =>
      s!"wrong tag (expected 0x{Hex.byte expected}, got 0x{Hex.byte actual})"
  | .malformedZarith => "malformed zarith number"
  | .unterminatedZarith => "unterminated zarith number"
  | .negativeNatural => "cannot encode negative value as natural number"
  | .invalidUtf8 fault => s!"invalid utf-8: {fault.message}"
  | .noContents => s!"empty {Choice.contents.label}"

end OperationForge
