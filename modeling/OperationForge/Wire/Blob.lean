import OperationForge.Wire.Format

/-!
# Blobs

A blob is an opaque byte string of bounded length.  On the wire it follows its length, a number of
four bytes.  The bound is part of the type; a bound above `Blob.hardLimit` means that limit.
-/

namespace OperationForge

namespace Blob

/-- The greatest length that any field of variable size may have. -/
def hardLimit : Nat := 0x3fffffff

/-- The greatest length of a blob under a bound. -/
def capacity (bound : Nat) : Nat := min bound hardLimit

end Blob

/-- A byte string of at most `Blob.capacity bound` bytes. -/
@[ext] structure Blob (bound : Nat) where
  bytes : Bytes
  length_le : bytes.length ≤ Blob.capacity bound
  deriving DecidableEq

namespace Blob

variable {bound : Nat}

instance : Inhabited (Blob bound) := ⟨⟨[], Nat.zero_le _⟩⟩

/-- A byte string that is short enough, as a blob. -/
def ofBytes (bytes : Bytes) : Except WireError (Blob bound) :=
  if short : bytes.length ≤ capacity bound then .ok ⟨bytes, short⟩
  else .error (.overflowContainer bytes.length)

/-- Reads a body of known length, which has to fit the capacity before the input is looked at. -/
def readBody (length : Nat) : Reader (Blob bound) :=
  if short : length ≤ capacity bound then
    (fun body : FixedBytes length => ⟨body.toList, by simpa using short⟩) <$> Reader.take length
  else
    Reader.fail (.overflowContainer length)

/-- The length in four bytes, then the bytes.  Writing looks at the length again before anything is
written. -/
def format (bound : Nat) : Format (Blob bound) where
  read := do
    let length ← Format.uint32.read
    readBody length.toNat
  write blob :=
    if capacity bound < blob.bytes.length then .stopped (.overflowContainer blob.bytes.length)
    else Format.uint32.write (UInt32.ofNat blob.bytes.length) ++ .wrote blob.bytes

@[simp] theorem ofBytes_bytes (blob : Blob bound) : ofBytes blob.bytes = .ok blob := by
  simp [ofBytes, blob.length_le]

end Blob

/-- A blob under no bound but the hard limit. -/
abbrev Payload := Blob Blob.hardLimit

end OperationForge
