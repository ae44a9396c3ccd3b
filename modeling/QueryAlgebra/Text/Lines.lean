import QueryAlgebra.Text.Blank

/-!
# Lines of a text

The lines of a text without their ends, the line ends of a file, and whether a text occurs
within another.
-/

namespace QueryAlgebra

/--
A character that ends a line: line feed, vertical tab, form feed, carriage
return, the separators of files, groups and records, next line, and the line and
paragraph separators of Unicode.
-/
def endsLine (c : Char) : Bool :=
  let n := c.toNat
  (10 ≤ n && n ≤ 13) || (28 ≤ n && n ≤ 30) || n == 0x85 || n == 0x2028 || n == 0x2029

namespace Text

/-- The lines of a text whose line so far is given in reverse. -/
def linesFrom (line : Text) : Text → List Text
  | [] => if line.isEmpty then [] else [line.reverse]
  | '\r' :: '\n' :: rest => line.reverse :: linesFrom [] rest
  | c :: rest =>
    if endsLine c then line.reverse :: linesFrom [] rest else linesFrom (c :: line) rest

/--
The lines of a text.  A carriage return and a line feed end one line together,
and nothing follows the last line end.
-/
def lines (s : Text) : List Text :=
  linesFrom [] s

/--
A text as it is read from a file: a carriage return ends a line as a line feed does, and
so do both together.
-/
def unified : Text → Text
  | [] => []
  | '\r' :: '\n' :: rest => '\n' :: unified rest
  | c :: rest => (if c = '\r' then '\n' else c) :: unified rest

/-- A text occurs in another. -/
def occursIn (part : Text) : Text → Bool
  | [] => part.isEmpty
  | c :: rest => part.isPrefixOf (c :: rest) || occursIn part rest

/-- A text ends with another. -/
def endsWith (s ending : Text) : Bool :=
  ending.reverse.isPrefixOf s.reverse

end Text
end QueryAlgebra
