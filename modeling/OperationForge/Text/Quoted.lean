import OperationForge.Text.Hex
import OperationForge.Text.Printable

/-!
# Quoted texts

Messages show a text between quotation marks.  A quotation mark or backslash in it follows a
backslash; the common control characters have a letter, and every other character that cannot be
shown is written as its number.
-/

namespace OperationForge.Text

/-- How a character stands in a quoted text. -/
def quoteChar (char : Char) : List Char :=
  if char = '"' ∨ char = '\\' then ['\\', char]
  else if char = '\t' then ['\\', 't']
  else if char = '\n' then ['\\', 'n']
  else if char = '\r' then ['\\', 'r']
  else if char.toNat = 0 then ['\\', '0']
  else if isPrintable char then [char]
  else ['\\', 'u', '{'] ++ Hex.digits char.toNat ++ ['}']

/-- A text between quotation marks. -/
def quote (text : String) : String :=
  String.ofList (['"'] ++ text.toList.flatMap quoteChar ++ ['"'])

end OperationForge.Text
