import OperationForge.Bytes

/-!
# UTF-8 text on the wire

A name on the wire is a byte string that has to be well-formed UTF-8.  `decode` accepts exactly the
byte strings that `encode` produces.  For all others it reports the first ill-formed sequence:
where it starts, and how many of its bytes still belong to some well-formed sequence.
-/

namespace OperationForge.Utf8

/-- What is wrong with a byte string that is not UTF-8.  Positions count bytes from zero. -/
inductive Fault where
  /-- The input ends inside the sequence that starts at `start`. -/
  | incomplete (start : Nat)
  /-- The first `length` bytes at `start` begin a sequence that the next byte breaks. -/
  | malformed (start length : Nat)
  deriving DecidableEq, Repr

/-- The wording of a fault. -/
def Fault.message : Fault → String
  | .incomplete start => s!"incomplete utf-8 byte sequence from index {start}"
  | .malformed start length => s!"invalid utf-8 sequence of {length} bytes from index {start}"

/-- What a lead byte calls for. -/
structure Continuation where
  /-- How many continuation bytes follow. -/
  count : Nat
  /-- The least first continuation byte. -/
  low : UInt8
  /-- The greatest first continuation byte. -/
  high : UInt8

/-- The continuation that a lead byte calls for, if it is one.  The narrow ranges after `E0`, `ED`,
`F0` and `F4` shut out overlong forms, surrogates and numbers past the last code point. -/
def Continuation.ofLead? (lead : UInt8) : Option Continuation :=
  if lead < 0x80 then some ⟨0, 0x80, 0xbf⟩
  else if lead < 0xc2 then none
  else if lead < 0xe0 then some ⟨1, 0x80, 0xbf⟩
  else if lead = 0xe0 then some ⟨2, 0xa0, 0xbf⟩
  else if lead = 0xed then some ⟨2, 0x80, 0x9f⟩
  else if lead < 0xf0 then some ⟨2, 0x80, 0xbf⟩
  else if lead = 0xf0 then some ⟨3, 0x90, 0xbf⟩
  else if lead < 0xf4 then some ⟨3, 0x80, 0xbf⟩
  else if lead = 0xf4 then some ⟨3, 0x80, 0x8f⟩
  else none

/-- How many of the `count` continuation bytes are in place.  Only the first one has a range of its
own. -/
def inPlace : (count : Nat) → (low high : UInt8) → Bytes → Nat
  | count + 1, low, high, byte :: rest =>
      if low ≤ byte ∧ byte ≤ high then inPlace count 0x80 0xbf rest + 1 else 0
  | _, _, _, _ => 0

/-- The first fault of an ill-formed byte string whose first byte has position `start`. -/
def firstFault (start : Nat) (bytes : Bytes) : Fault :=
  match bytes with
  | [] => .incomplete start
  | lead :: rest =>
      match Continuation.ofLead? lead with
      | none => .malformed start 1
      | some ⟨count, low, high⟩ =>
          let found := inPlace count low high rest
          if found = count then firstFault (start + 1 + count) (rest.drop count)
          else if found = rest.length then .incomplete start
          else .malformed start (1 + found)
termination_by bytes.length
decreasing_by simp only [List.length_drop, List.length_cons]; omega

/-- The bytes of a text. -/
def encode (text : String) : Bytes :=
  text.toByteArray.data.toList

/-- The text with the given bytes, or the first fault in them. -/
def decode (bytes : Bytes) : Except Fault String :=
  if valid : (ByteArray.mk bytes.toArray).IsValidUTF8 then
    .ok (String.ofByteArray ⟨bytes.toArray⟩ valid)
  else
    .error (firstFault 0 bytes)

@[simp] theorem decode_encode (text : String) : decode (encode text) = .ok text := by
  obtain ⟨bytes, valid⟩ := text
  simp [decode, encode, valid]

theorem encode_of_decode {bytes : Bytes} {text : String} (decoded : decode bytes = .ok text) :
    encode text = bytes := by
  unfold decode at decoded
  split at decoded
  · cases decoded
    simp [encode]
  · cases decoded

end OperationForge.Utf8
