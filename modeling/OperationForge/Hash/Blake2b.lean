import OperationForge.Bytes

/-!
# Blake2b

The hash function Blake2b without a key, for digests of up to 64 bytes.  The sixteen working words
are four rows of four; a round mixes the columns, and then the diagonals by turning the rows.
-/

namespace OperationForge.Blake2b

/-- A word of 64 bits. -/
abbrev Word := BitVec 64

/-- Four words. -/
structure Row where
  first : Word
  second : Word
  third : Word
  fourth : Word

namespace Row

/-- Combines two rows word by word. -/
def zipWith (combine : Word → Word → Word) (left right : Row) : Row where
  first := combine left.first right.first
  second := combine left.second right.second
  third := combine left.third right.third
  fourth := combine left.fourth right.fourth

instance : Add Row := ⟨zipWith (· + ·)⟩
instance : XorOp Row := ⟨zipWith (· ^^^ ·)⟩

/-- Turns every word to the right. -/
def rotateRight (row : Row) (amount : Nat) : Row where
  first := row.first.rotateRight amount
  second := row.second.rotateRight amount
  third := row.third.rotateRight amount
  fourth := row.fourth.rotateRight amount

/-- Moves every word one place to the left. -/
def turn (row : Row) : Row :=
  ⟨row.second, row.third, row.fourth, row.first⟩

/-- The words, each least significant byte first. -/
def toBytes (row : Row) : Bytes :=
  [row.first, row.second, row.third, row.fourth].flatMap fun word =>
    LittleEndian.encode 8 word.toNat

@[simp] theorem length_toBytes (row : Row) : row.toBytes.length = 32 := by
  simp [toBytes]

end Row

/-- The sixteen working words. -/
structure Square where
  a : Row
  b : Row
  c : Row
  d : Row

/-- Mixes every column with two message words of its own. -/
def mixColumns (square : Square) (x y : Row) : Square :=
  let a₁ := square.a + square.b + x
  let d₁ := (square.d ^^^ a₁).rotateRight 32
  let c₁ := square.c + d₁
  let b₁ := (square.b ^^^ c₁).rotateRight 24
  let a₂ := a₁ + b₁ + y
  let d₂ := (d₁ ^^^ a₂).rotateRight 16
  let c₂ := c₁ + d₂
  let b₂ := (b₁ ^^^ c₂).rotateRight 63
  ⟨a₂, b₂, c₂, d₂⟩

/-- Turns the rows so that the diagonals become columns. -/
def diagonals (square : Square) : Square :=
  ⟨square.a, square.b.turn, square.c.turn.turn, square.d.turn.turn.turn⟩

/-- Undoes `diagonals`. -/
def undiagonals (square : Square) : Square :=
  ⟨square.a, square.b.turn.turn.turn, square.c.turn.turn, square.d.turn⟩

/-- The order in which a round takes the message words. -/
def schedule : List (List Nat) := [
  [0, 1, 2, 3, 4, 5, 6, 7, 8, 9, 10, 11, 12, 13, 14, 15],
  [14, 10, 4, 8, 9, 15, 13, 6, 1, 12, 0, 2, 11, 7, 5, 3],
  [11, 8, 12, 0, 5, 2, 15, 13, 10, 14, 3, 6, 7, 1, 9, 4],
  [7, 9, 3, 1, 13, 12, 11, 14, 2, 6, 5, 10, 4, 0, 15, 8],
  [9, 0, 5, 7, 2, 4, 10, 15, 14, 1, 11, 12, 6, 8, 3, 13],
  [2, 12, 6, 10, 0, 11, 8, 3, 4, 13, 7, 5, 15, 14, 1, 9],
  [12, 5, 1, 15, 14, 13, 4, 10, 0, 7, 6, 3, 9, 2, 8, 11],
  [13, 11, 7, 14, 12, 1, 3, 9, 5, 0, 15, 4, 8, 6, 2, 10],
  [6, 15, 14, 9, 11, 3, 0, 8, 12, 2, 13, 7, 1, 4, 10, 5],
  [10, 2, 8, 4, 7, 6, 1, 5, 15, 11, 9, 14, 3, 12, 13, 0],
  [0, 1, 2, 3, 4, 5, 6, 7, 8, 9, 10, 11, 12, 13, 14, 15],
  [14, 10, 4, 8, 9, 15, 13, 6, 1, 12, 0, 2, 11, 7, 5, 3]]

/-- One round, with the message words in its order. -/
def round (message : List Word) (square : Square) (order : List Nat) : Square :=
  let word (place : Nat) : Word := message.getD (order.getD place 0) 0
  let every (start : Nat) : Row :=
    ⟨word start, word (start + 2), word (start + 4), word (start + 6)⟩
  undiagonals (mixColumns (diagonals (mixColumns square (every 0) (every 1))) (every 8) (every 9))

/-- The eight chained words. -/
structure State where
  low : Row
  high : Row

/-- The first half of the initial words: the fractions of the square roots of 2, 3, 5 and 7. -/
def initialLow : Row :=
  ⟨0x6a09e667f3bcc908, 0xbb67ae8584caa73b, 0x3c6ef372fe94f82b, 0xa54ff53a5f1d36f1⟩

/-- The second half of the initial words: the fractions of the square roots of 11, 13, 17 and 19. -/
def initialHigh : Row :=
  ⟨0x510e527fade682d1, 0x9b05688c2b3e6c1f, 0x1f83d9abfb41bd6b, 0x5be0cd19137e2179⟩

/-- The sixteen words of a block, each least significant byte first. -/
def words (block : Bytes) : List Word :=
  (List.range 16).map fun index =>
    BitVec.ofNat 64 (LittleEndian.decode ((block.drop (8 * index)).take 8))

/-- Takes a block into the state.  `count` bytes of the message have been seen with this block. -/
def absorb (state : State) (block : Bytes) (count : Nat) (last : Bool) : State :=
  let finish : Word := if last then BitVec.allOnes 64 else 0
  let counter : Row := ⟨BitVec.ofNat 64 count, BitVec.ofNat 64 (count / Nat.pow 2 64), finish, 0⟩
  let start : Square := ⟨state.low, state.high, initialLow, initialHigh ^^^ counter⟩
  let mixed := schedule.foldl (round (words block)) start
  ⟨state.low ^^^ mixed.a ^^^ mixed.c, state.high ^^^ mixed.b ^^^ mixed.d⟩

/-- The state after a message, for digests of `size` bytes.  The last block may be partial, and is
there also for the empty message. -/
def run (size : Nat) (message : Bytes) : State :=
  let parameters : Row := ⟨BitVec.ofNat 64 (0x01010000 + size), 0, 0, 0⟩
  let whole := (message.length - 1) / 128
  let state := (List.range whole).foldl
    (fun state index =>
      absorb state ((message.drop (128 * index)).take 128) (128 * (index + 1)) false)
    ⟨initialLow ^^^ parameters, initialHigh⟩
  absorb state (message.drop (128 * whole)) message.length true

/-- All 64 bytes of a state. -/
def State.toBytes (state : State) : Bytes :=
  state.low.toBytes ++ state.high.toBytes

@[simp] theorem State.length_toBytes (state : State) : state.toBytes.length = 64 := by
  simp [State.toBytes]

/-- The digest of `size` bytes of a message. -/
def digest (size : Nat) (message : Bytes) (size_le : size ≤ 64 := by decide) : FixedBytes size :=
  .ofPrefix size (run size message).toBytes (by simpa using size_le)

/-- The digest that names keys and contracts. -/
def digest160 (message : Bytes) : FixedBytes 20 := digest 20 message

/-- The digest that names operations, and that is signed. -/
def digest256 (message : Bytes) : FixedBytes 32 := digest 32 message

end OperationForge.Blake2b
