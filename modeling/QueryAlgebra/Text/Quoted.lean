import QueryAlgebra.Text.Blank
import QueryAlgebra.Text.Unprintable
import QueryAlgebra.Text.Ranges

/-!
# Quoted texts

A text between quotes on one line: single quotes, or double quotes if only single
ones occur in it.  Line ends, tabs, backslashes, the chosen quote and characters
without a printed form are escaped.
-/

namespace QueryAlgebra
namespace Text

/-- A number as hexadecimal digits of at least a given width. -/
def hexPadded (width n : Nat) : Text :=
  let digits := Nat.toDigits 16 n
  List.replicate (width - digits.length) '0' ++ digits

/-- The character is printed as it is. -/
def isPrintable (c : Char) : Bool :=
  if c.toNat < 0x7F then 0x20 ≤ c.toNat
  else !inRanges unprintableRanges c.toNat

/-- The escape of a character by its number. -/
def numbered (n : Nat) : Text :=
  if n < 0x100 then ['\\', 'x'] ++ hexPadded 2 n
  else if n < 0x10000 then ['\\', 'u'] ++ hexPadded 4 n
  else ['\\', 'U'] ++ hexPadded 8 n

/-- A character between quotes. -/
def quotedChar (quote c : Char) : Text :=
  if c = quote ∨ c = '\\' then ['\\', c]
  else if c = '\n' then ['\\', 'n']
  else if c = '\r' then ['\\', 'r']
  else if c = '\t' then ['\\', 't']
  else if isPrintable c then [c]
  else numbered c.toNat

/-- The quote for a text: double if only single quotes occur in it. -/
def quoteFor (s : Text) : Char :=
  if s.contains '\x27' && !s.contains '\x22' then '\x22' else '\x27'

/-- A text between quotes. -/
def quoted (s : Text) : Text :=
  let quote := quoteFor s
  [quote] ++ s.flatMap (quotedChar quote) ++ [quote]

end Text
end QueryAlgebra
