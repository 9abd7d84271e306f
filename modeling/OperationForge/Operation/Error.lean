import OperationForge.Account.Address
import OperationForge.Key.Error

/-!
# Operation errors

The causes for which an operation or a part of one cannot be built, read, written or signed, and
their wording.
-/

namespace OperationForge

/-- Why an operation or a part of one could not be built, read, written or signed. -/
inductive OperationError where
  | wire (error : WireError)
  | base58 (error : Base58Error)
  | key (error : KeyError)
  /-- The hash of a key was asked of an account that belongs to a contract. -/
  | notImplicit (address : Address)
  /-- The name of an entrypoint is empty. -/
  | entrypointNotNamed
  /-- The bytes of an address are neither 22 nor 21. -/
  | addressLength (length : Nat)
  /-- The bytes cannot even hold a signature. -/
  | tooShort (length : Nat)
  /-- No entry tells the curve of the signature. -/
  | signatureTypeAmbiguous
  deriving DecidableEq

/-- The wording of an operation error. -/
def OperationError.message : OperationError → String
  | wire error => s!"codec: {error.message}"
  | base58 error => s!"base58check: {error.message}"
  | key error => s!"key: {error.message}"
  | notImplicit address => s!"contract {address.text} is not an implicit account"
  | entrypointNotNamed => "entrypoint is not named"
  | addressLength length => s!"expected 22 or 21 bytes for a contract id, got {length}"
  | tooShort length => s!"signed operation too short: {length} bytes"
  | signatureTypeAmbiguous => "cannot infer signature type, no content has an implicit source"

end OperationForge
