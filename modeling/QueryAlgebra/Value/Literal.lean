import QueryAlgebra.Number.Written
import QueryAlgebra.Text.Quoted
import QueryAlgebra.Value.Calendar

/-!
# Atomic values with a literal

Values that are known by their literal text: dates and times, exact decimal
numbers, fractions, paths, identifiers of 128 bits, and objects of which only the
type is known.
-/

namespace QueryAlgebra

/-! ## Exact decimal numbers -/

/-- An exact decimal number, an infinity, or a NaN. -/
inductive ExactDecimal where
  | finite (d : Decimal)
  | infinite (negative : Bool)
  | nan (negative : Bool)
  deriving DecidableEq, Repr

namespace ExactDecimal

/-- The exact decimal number that a text stands for. -/
def ofText? (s : Text) : Option ExactDecimal :=
  let plain := ((Text.trim s).filter (· != '_')).map NumberReader.plainChar
  let (negative, rest) := NumberReader.signOf plain
  let word := rest.map Char.toLower
  if word = ['i', 'n', 'f'] ∨ word = ['i', 'n', 'f', 'i', 'n', 'i', 't', 'y'] then
    some (.infinite negative)
  else if word = ['n', 'a', 'n'] then some (.nan negative)
  else (NumberReader.unsigned? negative rest).map .finite

/--
An exact decimal number as it is read: positionally unless its exponent is
positive or its highest digit stands more than six places behind the point.
-/
def text : ExactDecimal → Text
  | infinite negative => NumberStyle.sign negative ++ "Infinity".toList
  | nan negative => NumberStyle.sign negative ++ "NaN".toList
  | finite d =>
    let digits := decimalDigits d.coefficient
    let top := d.exponent + (digits.length : Int) - 1
    NumberStyle.sign d.negative ++
      if 0 < d.exponent ∨ top < -6 then
        NumberStyle.pointed digits ++ ['E', if top < 0 then '-' else '+'] ++
          decimalDigits top.natAbs
      else if d.exponent = 0 then digits
      else
        let places := (-d.exponent).toNat
        let padded := List.replicate (places + 1 - digits.length) '0' ++ digits
        padded.take (padded.length - places) ++ ['.'] ++ padded.drop (padded.length - places)

end ExactDecimal

/-! ## Fractions -/

/-- A fraction in lowest terms with a positive denominator. -/
structure Fraction where
  num : Int
  den : Nat
  deriving DecidableEq, Repr

/-- The fraction of two integers, if the second is not zero. -/
def Fraction.ofInts? (num den : Int) : Option Fraction :=
  if den = 0 then none
  else
    let divisor := Nat.gcd num.natAbs den.natAbs
    let negative := (num < 0) != (den < 0)
    let top : Int := num.natAbs / divisor
    some ⟨if negative then -top else top, den.natAbs / divisor⟩

/-! ## Paths -/

/-- The path without empty and single-dot components; two leading slashes are kept. -/
def normalPath (s : Text) : Text :=
  let slashes := (s.takeWhile (· == '/')).length
  let root := if slashes = 0 then [] else if slashes = 2 then ['/', '/'] else ['/']
  let parts := (Text.pieces '/' s).filter fun part => !part.isEmpty && part != ['.']
  let path := root ++ Text.join ['/'] parts
  if path.isEmpty then ['.'] else path

/-! ## Identifiers -/

/-- Why a text is no identifier. -/
inductive IdentifierFault where
  | length
  | digits (s : Text)
  deriving DecidableEq, Repr

/-- The text without every occurrence of a word. -/
def withoutWord (word : Text) : Nat → Text → Text
  | _, [] => []
  | 0, s => s
  | fuel + 1, c :: rest =>
    if word.isPrefixOf (c :: rest) then withoutWord word fuel ((c :: rest).drop word.length)
    else c :: withoutWord word fuel rest

/-- The text without the characters of a class at its ends. -/
def stripEnds (p : Char → Bool) (s : Text) : Text :=
  ((s.dropWhile p).reverse.dropWhile p).reverse

/-- The thirty-two hexadecimal digits of an identifier. -/
def identifierDigits (s : Text) : Except IdentifierFault Text :=
  let plain := withoutWord "uuid:".toList s.length (withoutWord "urn:".toList s.length s)
  let digits := (stripEnds (fun c => c == '\x7b' || c == '\x7d') plain).filter (· != '-')
  if digits.length ≠ 32 then .error .length
  else if digits.all fun c => c.isDigit || ('a' ≤ c.toLower && c.toLower ≤ 'f') then
    .ok (digits.map Char.toLower)
  else .error (.digits digits)

/-- An identifier in groups of digits. -/
def identifierText (digits : Text) : Text :=
  Text.join ['-'] [digits.take 8, (digits.drop 8).take 4, (digits.drop 12).take 4,
    (digits.drop 16).take 4, digits.drop 20]

/-! ## Literals -/

/-- An atomic value that is known by its literal. -/
inductive Literal where
  | date (d : Date)
  | moment (d : Date) (t : TimeOfDay)
  | time (t : TimeOfDay)
  | duration (d : Duration)
  | decimal (d : ExactDecimal)
  | fraction (f : Fraction)
  | path (p : Text)
  | identifier (digits : Text)
  /-- An object of which only the type is known. -/
  | object (typeName : String)
  deriving DecidableEq, Repr

namespace Literal

/-- The literal text of a value. -/
def text : Literal → Text
  | date d => d.literal
  | moment d t => d.literalAt t
  | time t => t.literal
  | duration d => d.literal
  | decimal d => "Decimal('".toList ++ d.text ++ "')".toList
  | fraction f =>
    "Fraction(".toList ++ intText f.num ++ [',', ' '] ++ decimalDigits f.den ++ [')']
  | path p => "PurePosixPath(".toList ++ Text.quoted p ++ [')']
  | identifier digits => "UUID('".toList ++ identifierText digits ++ "')".toList
  | object typeName => "<builtins.".toList ++ typeName.toList ++ ['>']

/-- A value as it is read. -/
def readable : Literal → Text
  | date d => d.text
  | moment d t => d.text ++ [' '] ++ t.text
  | time t => t.text
  | duration d => d.text
  | decimal d => d.text
  | fraction f =>
    if f.den = 1 then intText f.num else intText f.num ++ ['/'] ++ decimalDigits f.den
  | path p => p
  | identifier digits => identifierText digits
  | object typeName => "<builtins.".toList ++ typeName.toList ++ ['>']

/-- The name of the type of a value. -/
def typeName : Literal → String
  | date _ => "date"
  | moment _ _ => "datetime"
  | time _ => "time"
  | duration _ => "timedelta"
  | decimal _ => "Decimal"
  | fraction _ => "Fraction"
  | path _ => "PurePosixPath"
  | identifier _ => "UUID"
  | object name => name

end Literal
end QueryAlgebra
