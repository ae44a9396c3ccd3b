import QueryAlgebra.Number.Decimal
import QueryAlgebra.Text.DecimalDigit

/-!
# Written numbers

The written forms of binary numbers: the shortest form that reads back, and forms
with a fixed number of decimal places.  Reading accepts a sign, digits with single
underscores between them, a point, an exponent, and the words for infinities and NaN.
-/

namespace QueryAlgebra

/-- How a number is written in its shortest form. -/
structure NumberStyle where
  /-- Numbers whose highest digit stands below this power of ten are written with an exponent. -/
  leastPositional : Int
  /-- Numbers whose highest digit stands at this power of ten or above have an exponent. -/
  leastScientific : Int
  /-- The least number of digits of a written exponent. -/
  exponentWidth : Nat
  /-- The words for an infinity and for a NaN. -/
  infinityWord : Text
  nanWord : Text

namespace NumberStyle

/-- Positional from `0.0001` up to and below `1e+16`, and exponents of two digits or more. -/
def plain : NumberStyle where
  leastPositional := -4
  leastScientific := 16
  exponentWidth := 2
  infinityWord := ['i', 'n', 'f']
  nanWord := ['n', 'a', 'n']

/-- As `plain`, with the words for infinities and NaN that JSON texts use. -/
def json : NumberStyle :=
  { plain with
    infinityWord := ['I', 'n', 'f', 'i', 'n', 'i', 't', 'y']
    nanWord := ['N', 'a', 'N'] }

/-- The sign of a negative number. -/
def sign (negative : Bool) : Text :=
  if negative then ['-'] else []

/-- Digits with a point after the first one, if there are more. -/
def pointed : Text → Text
  | [] => []
  | [d] => [d]
  | d :: more => d :: '.' :: more

/-- Digits whose first one stands at a power of ten, written positionally. -/
def positional (digits : Text) (top : Int) : Text :=
  if top < 0 then
    ['0', '.'] ++ List.replicate (-top - 1).toNat '0' ++ digits
  else
    let whole := top.toNat + 1
    if digits.length ≤ whole then
      digits ++ List.replicate (whole - digits.length) '0' ++ ['.', '0']
    else digits.take whole ++ ['.'] ++ digits.drop whole

/-- An exponent with its sign. -/
def exponentText (style : NumberStyle) (top : Int) : Text :=
  let digits := decimalDigits top.natAbs
  ['e', if top < 0 then '-' else '+'] ++
    List.replicate (style.exponentWidth - digits.length) '0' ++ digits

/-- A decimal number in a style. -/
def decimalText (style : NumberStyle) (d : Decimal) : Text :=
  let digits := decimalDigits d.coefficient
  let top := d.exponent + (digits.length : Int) - 1
  sign d.negative ++
    if top < style.leastPositional ∨ style.leastScientific ≤ top then
      pointed digits ++ style.exponentText top
    else positional digits top

/-- The shortest form of a number in a style. -/
def text (style : NumberStyle) : Binary64 → Text
  | .nan => style.nanWord
  | .infinite negative => sign negative ++ style.infinityWord
  | .finite negative m q h => style.decimalText (Binary64.shortest negative m q h)

end NumberStyle

namespace Binary64

/-- The shortest form of a number. -/
def text (x : Binary64) : Text :=
  NumberStyle.plain.text x

/-- A number with a fixed number of decimal places, the even digit on a tie. -/
def fixed (places : Nat) : Binary64 → Text
  | nan => NumberStyle.plain.nanWord
  | infinite negative => NumberStyle.sign negative ++ NumberStyle.plain.infinityWord
  | finite negative m q _ =>
    let digits := decimalDigits (roundedDecimal negative m q places).coefficient
    let padded := List.replicate (places + 1 - digits.length) '0' ++ digits
    let whole := padded.length - places
    NumberStyle.sign negative ++ padded.take whole ++
      if places = 0 then [] else '.' :: padded.drop whole

end Binary64

/-! ## Reading -/

namespace NumberReader

/-- The value of a decimal digit. -/
def digitValue (c : Char) : Nat :=
  c.toNat - '0'.toNat

/-- The number that a text of decimal digits stands for. -/
def natOf (digits : Text) : Nat :=
  digits.foldl (fun n c => 10 * n + digitValue c) 0

/--
The digits at the start of a text, in which single underscores may stand between
two digits, and what follows them.
-/
def digitRun : Text → Text × Text
  | [] => ([], [])
  | [c] => if c.isDigit then ([c], []) else ([], [c])
  | c :: d :: rest =>
    if c.isDigit then
      if d = '_' then
        let next := digitRun rest
        if next.1.isEmpty then ([c], d :: rest) else (c :: next.1, next.2)
      else
        let next := digitRun (d :: rest)
        (c :: next.1, next.2)
    else ([], c :: d :: rest)
termination_by s => s.length

/-- A sign at the start of a text: whether it is negative, and what follows. -/
def signOf : Text → Bool × Text
  | '-' :: rest => (true, rest)
  | '+' :: rest => (false, rest)
  | rest => (false, rest)

/-- An exponent that takes up the whole text; no text at all is the exponent zero. -/
def exponentOf? : Text → Option Int
  | [] => some 0
  | c :: rest =>
    if c = 'e' ∨ c = 'E' then
      let (negative, rest) := signOf rest
      match digitRun rest with
      | (digits, []) =>
        if digits.isEmpty then none
        else some (if negative then -(natOf digits : Int) else natOf digits)
      | _ => none
    else none

/-- An unsigned decimal number that takes up the whole text. -/
def unsigned? (negative : Bool) (s : Text) : Option Decimal :=
  let (whole, rest) := digitRun s
  let (fraction, rest) :=
    match rest with
    | '.' :: rest => digitRun rest
    | _ => ([], rest)
  if whole.isEmpty && fraction.isEmpty then none
  else
    (exponentOf? rest).map fun e =>
      ⟨negative, natOf (whole ++ fraction), e - (fraction.length : Int)⟩

/-- A character as a number text has it: digits of all scripts are alike, and so are blanks. -/
def plainChar (c : Char) : Char :=
  if c.toNat < 127 then c
  else if isBlank c then ' '
  else
    match decimalDigit? c with
    | some d => Char.ofNat ('0'.toNat + d)
    | none => '?'

/-- A blank that may stand around a number: the space and the controls from tab to return. -/
def isPlainBlank (c : Char) : Bool :=
  c == ' ' || (9 ≤ c.toNat && c.toNat ≤ 13)

/-- A text of plain characters without blanks at its ends. -/
def plainText (s : Text) : Text :=
  let plain := (s.map plainChar).dropWhile isPlainBlank
  (plain.reverse.dropWhile isPlainBlank).reverse

/-- The whole number that a text stands for, without regard to blanks at its ends. -/
def integer? (s : Text) : Option Int :=
  let (negative, rest) := signOf (plainText s)
  match digitRun rest with
  | (digits, []) =>
    if digits.isEmpty then none
    else some (if negative then -(natOf digits : Int) else natOf digits)
  | _ => none

/-- The number that a text stands for, without regard to blanks at its ends. -/
def binary64? (s : Text) : Option Binary64 :=
  let (negative, rest) := signOf (plainText s)
  let word := rest.map Char.toLower
  if word = ['i', 'n', 'f'] ∨ word = ['i', 'n', 'f', 'i', 'n', 'i', 't', 'y'] then
    some (.infinite negative)
  else if word = ['n', 'a', 'n'] then some .nan
  else (unsigned? negative rest).map Decimal.toBinary64

end NumberReader
end QueryAlgebra
