/-!
# Blank characters

The characters that separate the words of a query, and the removal of blanks at
both ends of a text.  Texts are lists of characters, so that every recogniser of
the library is a recursion on its input.
-/

namespace QueryAlgebra

/-- A text as the list of its characters. -/
abbrev Text := List Char

/--
A character that separates words: the control characters from tab to carriage
return and from file separator to unit separator, next line, and the space
separators and line separators of Unicode.
-/
def isBlank (c : Char) : Bool :=
  let n := c.toNat
  (9 ≤ n && n ≤ 13) || (28 ≤ n && n ≤ 32) || n == 0x85 || n == 0xA0 || n == 0x1680 ||
    (0x2000 ≤ n && n ≤ 0x200A) || n == 0x2028 || n == 0x2029 || n == 0x202F ||
    n == 0x205F || n == 0x3000

namespace Text

/-- The text without the blanks at its start. -/
def trimStart (s : Text) : Text :=
  s.dropWhile isBlank

/-- The text without the blanks at its end. -/
def trimEnd (s : Text) : Text :=
  (s.reverse.dropWhile isBlank).reverse

/-- The text without the blanks at either end. -/
def trim (s : Text) : Text :=
  trimEnd (trimStart s)

/--
The pieces of a text between the occurrences of a separator.  A text without the
separator is its own single piece, and the empty text has one empty piece.
-/
def pieces (sep : Char) : Text → List Text
  | [] => [[]]
  | c :: rest =>
    match pieces sep rest with
    | [] => [[c]]
    | piece :: more => if c = sep then [] :: piece :: more else (c :: piece) :: more

/-- What follows the last occurrence of a separator, or the whole text. -/
def afterLast (sep : Char) (s : Text) : Text :=
  ((pieces sep s).getLast?).getD []

/-- The texts one after another with a separator text between them. -/
def join (sep : Text) : List Text → Text
  | [] => []
  | [s] => s
  | s :: more => s ++ sep ++ join sep more

/-- The text followed by blanks up to a width. -/
def padRight (width : Nat) (s : Text) : Text :=
  s ++ List.replicate (width - s.length) ' '

/-- The text preceded by blanks up to a width. -/
def padLeft (width : Nat) (s : Text) : Text :=
  List.replicate (width - s.length) ' ' ++ s

end Text

end QueryAlgebra
