import OperationForge.Wire.Reader

/-!
# Cursors

A cursor is a buffer with a position up to which it has been read.  Any reader moves a cursor on;
the position can only grow and never passes the end of the buffer.
-/

namespace OperationForge

/-- A buffer and the part of it that is still unread. -/
structure Cursor where
  buffer : Bytes
  rest : Bytes
  rest_suffix : rest <:+ buffer

namespace Cursor

/-- A buffer of which nothing has been read. -/
def start (buffer : Bytes) : Cursor := ⟨buffer, buffer, List.suffix_rfl⟩

/-- How many bytes have been read. -/
def position (cursor : Cursor) : Nat := cursor.buffer.length - cursor.rest.length

/-- How many bytes are left. -/
def remaining (cursor : Cursor) : Nat := cursor.rest.length

/-- Whether no bytes are left. -/
def isExhausted (cursor : Cursor) : Bool := cursor.rest.isEmpty

/-- The outcome of a reader at the cursor, and the cursor after it. -/
def read {α : Type} (cursor : Cursor) (reader : Reader α) : Except WireError α × Cursor :=
  ((reader.run cursor.rest).outcome,
    { buffer := cursor.buffer
      rest := (reader.run cursor.rest).rest
      rest_suffix := (reader.rest_suffix cursor.rest).trans cursor.rest_suffix })

theorem position_add_remaining (cursor : Cursor) :
    cursor.position + cursor.remaining = cursor.buffer.length := by
  have short := cursor.rest_suffix.length_le
  simp only [position, remaining]
  omega

end Cursor

end OperationForge
