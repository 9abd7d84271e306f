import OperationForge.Operation.Entrypoint
import OperationForge.Wire.Blob

/-!
# Calls and scripts

What a transaction hands to a contract, and what an origination makes a contract of.  Arguments,
code and storage are opaque bytes here.
-/

namespace OperationForge

/-- The entrypoint that a transaction calls, and the argument. -/
structure Parameters where
  entrypoint : Entrypoint
  value : Payload
  deriving DecidableEq

/-- The code of a contract and its first storage. -/
structure Script where
  code : Payload
  storage : Payload
  deriving DecidableEq

namespace Parameters

/-- A call with an argument that is short enough. -/
def ofBytes (entrypoint : Entrypoint) (value : Bytes) : Except OperationError Parameters := do
  let value ← (Blob.ofBytes value).mapError .wire
  return ⟨entrypoint, value⟩

/-- The entrypoint, and then the argument. -/
def format : Format Parameters where
  read := do
    let entrypoint ← Entrypoint.format.read
    let value ← (Blob.format Blob.hardLimit).read
    pure ⟨entrypoint, value⟩
  write call :=
    Entrypoint.format.write call.entrypoint ++ (Blob.format Blob.hardLimit).write call.value

end Parameters

namespace Script

/-- A script whose parts are short enough. -/
def ofBytes (code storage : Bytes) : Except OperationError Script := do
  let code ← (Blob.ofBytes code).mapError .wire
  let storage ← (Blob.ofBytes storage).mapError .wire
  return ⟨code, storage⟩

/-- The code, and then the storage. -/
def format : Format Script where
  read := do
    let code ← (Blob.format Blob.hardLimit).read
    let storage ← (Blob.format Blob.hardLimit).read
    pure ⟨code, storage⟩
  write script :=
    (Blob.format Blob.hardLimit).write script.code ++
      (Blob.format Blob.hardLimit).write script.storage

end Script

end OperationForge
