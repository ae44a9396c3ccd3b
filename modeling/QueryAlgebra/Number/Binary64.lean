/-!
# Binary floating-point numbers

The numbers of the 64-bit binary format, each finite one as `significand · 2^exponent`
in exact arithmetic.  Every operation computes the exact result and then takes the
nearest number of the format, the one with the even significand on a tie.
-/

namespace QueryAlgebra

/--
The one form in which a finite number is held: the significand has at most 53
bits, and it uses the highest of them unless the exponent is the smallest.
-/
def CanonicalForm (significand : Nat) (exponent : Int) : Prop :=
  significand < Nat.pow 2 53 ∧ -1074 ≤ exponent ∧ exponent ≤ 971 ∧
    (Nat.pow 2 52 ≤ significand ∨ exponent = -1074)

instance (significand : Nat) (exponent : Int) : Decidable (CanonicalForm significand exponent) :=
  inferInstanceAs (Decidable (_ ∧ _))

/-- A number of the 64-bit binary format. -/
inductive Binary64 where
  | nan
  | infinite (negative : Bool)
  | finite (negative : Bool) (significand : Nat) (exponent : Int)
      (canonical : CanonicalForm significand exponent)
  deriving DecidableEq

/-! ## Rounding of quotients -/

/-- The integer nearest to a quotient, and the even one of two that are equally near. -/
def roundQuotient (num den : Nat) : Nat :=
  let whole := num / den
  let twice := 2 * (num % den)
  if twice < den then whole
  else if den < twice then whole + 1
  else if whole % 2 = 0 then whole
  else whole + 1

/-- A quotient divided by a power of two, as numerator and denominator. -/
def overPowerOfTwo (num den : Nat) (exponent : Int) : Nat × Nat :=
  if 0 ≤ exponent then (num, den * Nat.pow 2 exponent.toNat)
  else (num * Nat.pow 2 (-exponent).toNat, den)

namespace Binary64

/-- The exponent at which a positive quotient has its significand, short of overflow. -/
def exponentOf (num den : Nat) : Int :=
  let guess : Int := (Nat.log2 num : Int) - (Nat.log2 den : Int) - 52
  let scaled := overPowerOfTwo num den guess
  max (if scaled.1 < Nat.pow 2 52 * scaled.2 then guess - 1 else guess) (-1074)

/-- The number given by a significand and an exponent, infinite if they are too large. -/
def ofForm (negative : Bool) (significand : Nat) (exponent : Int) : Binary64 :=
  if h : CanonicalForm significand exponent then finite negative significand exponent h
  else infinite negative

/-- The number nearest to a quotient with a sign. -/
def ofRatio (negative : Bool) (num den : Nat) : Binary64 :=
  if num = 0 then ofForm negative 0 (-1074)
  else
    let exponent := exponentOf num den
    let scaled := overPowerOfTwo num den exponent
    let significand := roundQuotient scaled.1 scaled.2
    if significand = Nat.pow 2 53 then ofForm negative (Nat.pow 2 52) (exponent + 1)
    else ofForm negative significand exponent

/-- The number nearest to an integer times a power of two. -/
def ofScaled (value : Int) (exponent : Int) (negativeZero : Bool) : Binary64 :=
  let scaled := overPowerOfTwo value.natAbs 1 (-exponent)
  ofRatio (if value = 0 then negativeZero else value < 0) scaled.1 scaled.2

/-- The number nearest to an integer. -/
def ofInt (n : Int) : Binary64 :=
  ofRatio (n < 0) n.natAbs 1

/-- Positive zero. -/
def zero : Binary64 :=
  ofInt 0

instance : Inhabited Binary64 :=
  ⟨zero⟩

/-! ## Arithmetic -/

/-- The significand with its sign. -/
def signed (negative : Bool) (significand : Nat) : Int :=
  if negative then -(significand : Int) else significand

/-- The sum of two numbers. -/
def add : Binary64 → Binary64 → Binary64
  | nan, _ => nan
  | _, nan => nan
  | infinite s, infinite t => if s = t then infinite s else nan
  | infinite s, finite .. => infinite s
  | finite .., infinite t => infinite t
  | finite s m p _, finite t n q _ =>
    let low := min p q
    let sum := signed s m * Int.pow 2 (p - low).toNat + signed t n * Int.pow 2 (q - low).toNat
    ofScaled sum low (s && t)

/-- The number with the opposite sign. -/
def neg : Binary64 → Binary64
  | nan => nan
  | infinite s => infinite (!s)
  | finite s m q h => finite (!s) m q h

/-- The difference of two numbers. -/
def sub (x y : Binary64) : Binary64 :=
  add x (neg y)

/-- The number is zero, of either sign. -/
def isZero : Binary64 → Bool
  | finite _ m _ _ => m == 0
  | _ => false

/-- The product of two numbers. -/
def mul : Binary64 → Binary64 → Binary64
  | nan, _ => nan
  | _, nan => nan
  | infinite s, infinite t => infinite (s != t)
  | infinite s, finite t n _ _ => if n = 0 then nan else infinite (s != t)
  | finite s m _ _, infinite t => if m = 0 then nan else infinite (s != t)
  | finite s m p _, finite t n q _ => ofScaled (signed (s != t) (m * n)) (p + q) (s != t)

/-- The quotient of two numbers. -/
def div : Binary64 → Binary64 → Binary64
  | nan, _ => nan
  | _, nan => nan
  | infinite _, infinite _ => nan
  | infinite s, finite t _ _ _ => infinite (s != t)
  | finite s _ _ _, infinite t => ofForm (s != t) 0 (-1074)
  | finite s m p _, finite t n q _ =>
    if n = 0 then (if m = 0 then nan else infinite (s != t))
    else
      let scaled := overPowerOfTwo m n (q - p)
      ofRatio (s != t) scaled.1 scaled.2

instance : Add Binary64 := ⟨add⟩
instance : Sub Binary64 := ⟨sub⟩
instance : Mul Binary64 := ⟨mul⟩
instance : Div Binary64 := ⟨div⟩

/-! ## Order -/

/-- The first number is less than the second; a NaN is neither less nor greater than any. -/
def lt : Binary64 → Binary64 → Bool
  | nan, _ => false
  | _, nan => false
  | infinite s, infinite t => s && !t
  | infinite s, finite .. => s
  | finite .., infinite t => !t
  | finite s m p _, finite t n q _ =>
    let low := min p q
    signed s m * Int.pow 2 (p - low).toNat < signed t n * Int.pow 2 (q - low).toNat

/-- The number is a NaN. -/
def isNaN : Binary64 → Bool
  | nan => true
  | _ => false

/-- The first number is at most the second. -/
def le (x y : Binary64) : Bool :=
  !x.isNaN && !y.isNaN && !lt y x

/-- The two numbers compare as equal, as the two zeros do. -/
def eq (x y : Binary64) : Bool :=
  le x y && le y x

end Binary64
end QueryAlgebra
