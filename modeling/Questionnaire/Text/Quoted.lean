import Questionnaire.Text.Hex
import Questionnaire.Text.Printable

/-!
# Quoted text

How a text is shown inside a message: between single quotes, or between double quotes when it has a
single quote and no double one.  The quote in use and the backslash are escaped, and so is every
character that is not printable.
-/

namespace Questionnaire.Text

/-- The quote to use for a text. -/
def quoteFor (cs : List Char) : Char := if cs.contains '\'' && !cs.contains '"' then '"' else '\''

/-- A code point by its number: two, four or eight hexadecimal digits. -/
def numericEscape (n : Nat) : List Char :=
  if n < 0x100 then '\\' :: 'x' :: hexPadded 2 n
  else if n < 0x10000 then '\\' :: 'u' :: hexPadded 4 n
  else '\\' :: 'U' :: hexPadded 8 n

/-- One character of a quoted text. -/
def quotedChar (quote : Char) (c : Char) : List Char :=
  if c = quote ∨ c = '\\' then ['\\', c]
  else if c = '\t' then ['\\', 't']
  else if c = '\n' then ['\\', 'n']
  else if c = '\r' then ['\\', 'r']
  else if isPrintable c.toNat then [c]
  else numericEscape c.toNat

/-- A text between quotes. -/
def quoted (s : String) : String :=
  let cs := s.toList
  let q := quoteFor cs
  String.ofList (q :: (cs.flatMap (quotedChar q) ++ [q]))

/-- One byte of quoted bytes. -/
def quotedByte (quote : Char) (b : UInt8) : List Char :=
  let c := Char.ofNat b.toNat
  if 0x20 ≤ b ∧ b < 0x7f ∨ c = '\t' ∨ c = '\n' ∨ c = '\r' then quotedChar quote c
  else numericEscape b.toNat

/-- Bytes between quotes, after a `b`. -/
def quotedBytes (bytes : List UInt8) : String :=
  let q := quoteFor (bytes.map fun b => Char.ofNat b.toNat)
  String.ofList ('b' :: q :: (bytes.flatMap (quotedByte q) ++ [q]))

end Questionnaire.Text
