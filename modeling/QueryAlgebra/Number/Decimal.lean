import QueryAlgebra.Text.Blank
import QueryAlgebra.Number.Binary64

/-!
# Decimal numbers

Decimal numbers as `coefficient · 10^exponent`, the binary number nearest to a
decimal one, a binary number rounded to a number of decimal places, and the
shortest decimal number that reads back as a given binary one.
-/

namespace QueryAlgebra

/-- A decimal number `± coefficient · 10^exponent`. -/
structure Decimal where
  negative : Bool
  coefficient : Nat
  exponent : Int
  deriving DecidableEq, Repr

/-- The decimal digits of a number, the most significant first. -/
def decimalDigits (n : Nat) : Text :=
  Nat.toDigits 10 n

/-- How many decimal digits a number has. -/
def decimalLength (n : Nat) : Nat :=
  (decimalDigits n).length

/-- The written form of an integer. -/
def intText (n : Int) : Text :=
  if n < 0 then '-' :: decimalDigits n.natAbs else decimalDigits n.natAbs

/-- A quotient divided by a power of ten, as numerator and denominator. -/
def overPowerOfTen (num den : Nat) (exponent : Int) : Nat × Nat :=
  if 0 ≤ exponent then (num, den * Nat.pow 10 exponent.toNat)
  else (num * Nat.pow 10 (-exponent).toNat, den)

namespace Decimal

/--
The binary number nearest to a decimal one.  Far outside the range of the binary
format the answer is infinite or zero without computing the power of ten.
-/
def toBinary64 (d : Decimal) : Binary64 :=
  let magnitude := d.exponent + (decimalLength d.coefficient : Int)
  if d.coefficient = 0 then .ofForm d.negative 0 (-1074)
  else if 310 < magnitude then .infinite d.negative
  else if magnitude < -330 then .ofForm d.negative 0 (-1074)
  else
    let scaled := overPowerOfTen d.coefficient 1 (-d.exponent)
    .ofRatio d.negative scaled.1 scaled.2

/-- The number without zeros at the end of its coefficient, of which at most `fuel` are removed. -/
def stripZeros : Nat → Decimal → Decimal
  | 0, d => d
  | fuel + 1, d =>
    if d.coefficient ≠ 0 ∧ d.coefficient % 10 = 0 then
      stripZeros fuel ⟨d.negative, d.coefficient / 10, d.exponent + 1⟩
    else d

end Decimal

namespace Binary64

/-- The magnitude of a finite number as numerator and denominator. -/
def ratio (significand : Nat) (exponent : Int) : Nat × Nat :=
  overPowerOfTwo significand 1 (-exponent)

/-- The exponent of the highest decimal digit of a positive quotient. -/
def decimalExponent (num den : Nat) : Int :=
  if den ≤ num then (decimalLength (num / den) : Int) - 1
  else
    let places := decimalLength (den / num) - 1
    if den ≤ num * Nat.pow 10 places then -(places : Int) else -(places : Int) - 1

/-- A finite number rounded to a number of decimal places, the even digit on a tie. -/
def roundedDecimal (negative : Bool) (significand : Nat) (exponent places : Int) : Decimal :=
  let scaled := ratio significand exponent
  let shifted := overPowerOfTen scaled.1 scaled.2 (-places)
  ⟨negative, roundQuotient shifted.1 shifted.2, -places⟩

/-- The number nearest to a number rounded to decimal places.  Beyond 323 places nothing changes. -/
def roundTo (x : Binary64) (places : Int) : Binary64 :=
  match x with
  | finite s m q _ =>
    if 323 < places then x
    else if places < -308 then ofForm s 0 (-1074)
    else (roundedDecimal s m q places).toBinary64
  | _ => x

/-- The number rounded to a number of significant decimal digits, and zero without a sign. -/
def roundSignificant (x : Binary64) (digits : Nat) : Binary64 :=
  match x with
  | finite _ m q _ =>
    if m = 0 then zero
    else
      let scaled := ratio m q
      roundTo x ((digits : Int) - 1 - decimalExponent scaled.1 scaled.2)
  | _ => x

/-- The whole part of a finite number. -/
def truncate? : Binary64 → Option Int
  | finite s m q _ =>
    let scaled := ratio m q
    let whole := scaled.1 / scaled.2
    some (if s then -(whole : Int) else whole)
  | _ => none

/-- The decimal number that is exactly equal to a finite number. -/
def exactDecimal (negative : Bool) (significand : Nat) (exponent : Int) : Decimal :=
  if 0 ≤ exponent then ⟨negative, significand * Nat.pow 2 exponent.toNat, 0⟩
  else ⟨negative, significand * Nat.pow 5 (-exponent).toNat, exponent⟩

/--
A decimal number with at most the given number of digits that reads back as a
finite number: of the two next to it the nearer one that does, on a tie the even one.
-/
def readsBackWith (x : Binary64) (negative : Bool) (significand : Nat) (exponent : Int)
    (digits : Nat) : Option Decimal :=
  let scaled := ratio significand exponent
  let unit := decimalExponent scaled.1 scaled.2 - (digits : Int) + 1
  let shifted := overPowerOfTen scaled.1 scaled.2 unit
  let floor := shifted.1 / shifted.2
  let below : Decimal := ⟨negative, floor, unit⟩
  let above : Decimal := ⟨negative, floor + 1, unit⟩
  let nearerFirst :=
    if roundQuotient shifted.1 shifted.2 = floor then [below, above] else [above, below]
  nearerFirst.find? fun d => d.toBinary64 = x

/-- The shortest decimal number that reads back as a finite number, the nearest of these. -/
def shortest (negative : Bool) (significand : Nat) (exponent : Int)
    (canonical : CanonicalForm significand exponent) : Decimal :=
  if significand = 0 then ⟨negative, 0, 0⟩
  else
    let x := finite negative significand exponent canonical
    let found := (List.range 17).findSome? fun i =>
      readsBackWith x negative significand exponent (i + 1)
    match found with
    | some d => d.stripZeros 20
    | none => exactDecimal negative significand exponent

end Binary64
end QueryAlgebra
