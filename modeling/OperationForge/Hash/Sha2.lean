import OperationForge.Bytes

/-!
# The SHA-2 family of hash functions

SHA-256 and SHA-512 are one construction over words of 32 and of 64 bits.  A `Variant` holds what
differs: the rotation amounts, the round constants and the initial state.
-/

namespace OperationForge.Sha2

/-- The eight working words. -/
structure State (bits : Nat) where
  a : BitVec bits
  b : BitVec bits
  c : BitVec bits
  d : BitVec bits
  e : BitVec bits
  f : BitVec bits
  g : BitVec bits
  h : BitVec bits

/-- The rotations, or two rotations and a shift, that a mixing function combines by exclusive or. -/
structure Amounts where
  first : Nat
  second : Nat
  third : Nat

/-- One member of the family, with words of `bits` bits. -/
structure Variant (bits : Nat) where
  /-- Rotations of the word `a` in a round. -/
  bigA : Amounts
  /-- Rotations of the word `e` in a round. -/
  bigE : Amounts
  /-- Rotations and shift of the older schedule word. -/
  smallOld : Amounts
  /-- Rotations and shift of the newer schedule word. -/
  smallNew : Amounts
  /-- One constant for each round. -/
  constants : List (BitVec bits)
  initial : State bits

variable {bits : Nat}

/-- Mixes three rotations of a word. -/
def rotations (amounts : Amounts) (word : BitVec bits) : BitVec bits :=
  word.rotateRight amounts.first ^^^ word.rotateRight amounts.second ^^^
    word.rotateRight amounts.third

/-- Mixes two rotations and a shift of a word. -/
def rotationsAndShift (amounts : Amounts) (word : BitVec bits) : BitVec bits :=
  word.rotateRight amounts.first ^^^ word.rotateRight amounts.second ^^^ (word >>> amounts.third)

/-- Takes each bit from `yes` or from `no`, as `test` says. -/
def choose (test yes no : BitVec bits) : BitVec bits :=
  (test &&& yes) ^^^ (~~~test &&& no)

/-- Takes each bit by majority. -/
def majority (x y z : BitVec bits) : BitVec bits :=
  (x &&& y) ^^^ (x &&& z) ^^^ (y &&& z)

/-- One round, with its constant and its schedule word. -/
def round (variant : Variant bits) (state : State bits) (constant word : BitVec bits) :
    State bits :=
  let fresh := state.h + rotations variant.bigE state.e + choose state.e state.f state.g +
    constant + word
  { a := fresh + rotations variant.bigA state.a + majority state.a state.b state.c
    b := state.a
    c := state.b
    d := state.c
    e := state.d + fresh
    f := state.e
    g := state.f
    h := state.g }

/-- The schedule word that follows a window of sixteen. -/
def nextWord (variant : Variant bits) (window : List (BitVec bits)) : BitVec bits :=
  rotationsAndShift variant.smallNew (window.getD 14 0) + window.getD 9 0 +
    rotationsAndShift variant.smallOld (window.getD 1 0) + window.getD 0 0

/-- One round for each constant.  The window holds the next sixteen schedule words. -/
def rounds (variant : Variant bits) :
    (constants window : List (BitVec bits)) → State bits → State bits
  | [], _, state => state
  | constant :: constants, window, state =>
      rounds variant constants (window.tail ++ [nextWord variant window])
        (round variant state constant (window.headD 0))

/-- The words of a block, each most significant byte first. -/
def words (bits : Nat) (block : Bytes) : List (BitVec bits) :=
  (List.range 16).map fun index =>
    BitVec.ofNat bits (BigEndian.decode ((block.drop (bits / 8 * index)).take (bits / 8)))

/-- Takes one block into the state. -/
def absorb (variant : Variant bits) (state : State bits) (block : Bytes) : State bits :=
  let mixed := rounds variant variant.constants (words bits block) state
  { a := state.a + mixed.a
    b := state.b + mixed.b
    c := state.c + mixed.c
    d := state.d + mixed.d
    e := state.e + mixed.e
    f := state.f + mixed.f
    g := state.g + mixed.g
    h := state.h + mixed.h }

/-- The message with a set bit, zeros and its length in bits, up to a whole number of blocks of
`2 * bits` bytes. -/
def pad (bits : Nat) (message : Bytes) : Bytes :=
  let blockSize := 2 * bits
  let lengthSize := bits / 4
  let used := (message.length + 1 + lengthSize) % blockSize
  message ++ 0x80 :: List.replicate ((blockSize - used) % blockSize) 0 ++
    BigEndian.encode lengthSize (8 * message.length)

/-- The state after a message. -/
def run (variant : Variant bits) (message : Bytes) : State bits :=
  let padded := pad bits message
  let blockSize := 2 * bits
  (List.range (padded.length / blockSize)).foldl
    (fun state index => absorb variant state ((padded.drop (blockSize * index)).take blockSize))
    variant.initial

/-- The eight words of a state, each as `size` bytes with the most significant first. -/
def State.toBytes (size : Nat) (state : State bits) : FixedBytes (8 * size) :=
  ⟨[state.a, state.b, state.c, state.d, state.e, state.f, state.g, state.h].flatMap
      fun word => BigEndian.encode size word.toNat,
    by simp; omega⟩

end OperationForge.Sha2
