import QueryAlgebra.Number.Decimal
import Mathlib

/-!
# Nearest binary numbers

A decimal number stands for a quotient, and the binary number nearest to it depends
on that quotient alone: not on zeros at the end of the coefficient, and not on the
numerator and the denominator with which the quotient is computed.  A quotient that
the binary format holds exactly is its own nearest number.  So every decimal number
that is chosen to stand for a binary one reads back as it.

Main results:

- Theorem `Binary64.exponentOf_eq_log`: the exponent of a quotient in terms of its
  binary logarithm.
- Theorem `Binary64.ofRatio_congr`: equal quotients have the same nearest number.
- Theorem `Binary64.ofRatio_of_eq`: a number of the format is nearest to itself.
- Theorem `Decimal.toBinary64_congr`: equal decimal numbers read as the same number.
- Theorem `Binary64.toBinary64_shortest`: the shortest form of a number reads back.
-/

namespace QueryAlgebra

/-! ## Quotients -/

/-- A quotient divided by a power of a base, whichever part takes the power. -/
theorem quotient_over_pow (base num den : Nat) (hbase : 0 < base) (exponent : Int) :
    let scaled := if 0 ≤ exponent then (num, den * Nat.pow base exponent.toNat)
      else (num * Nat.pow base (-exponent).toNat, den)
    (scaled.1 : ℚ) / scaled.2 = num / den / (base : ℚ) ^ exponent := by
  intro scaled
  have hne : (base : ℚ) ≠ 0 := by exact_mod_cast hbase.ne'
  by_cases hexponent : 0 ≤ exponent
  · obtain ⟨k, rfl⟩ := Int.eq_ofNat_of_zero_le hexponent
    simp [scaled, div_div]
  · obtain ⟨k, hk⟩ := Int.eq_ofNat_of_zero_le (show 0 ≤ -exponent by omega)
    obtain rfl : exponent = -(k : Int) := by omega
    have hneg : ¬ 0 ≤ -(k : Int) := hexponent
    simp only [scaled, if_neg hneg, neg_neg, Int.toNat_natCast, Nat.pow_eq, zpow_neg, zpow_natCast]
    push_cast
    field_simp

/-- Dividing by a power of two, on either side of the fraction. -/
theorem overPowerOfTwo_quotient (num den : Nat) (exponent : Int) :
    ((overPowerOfTwo num den exponent).1 : ℚ) / (overPowerOfTwo num den exponent).2 =
      num / den / 2 ^ exponent := by
  have hquotient := quotient_over_pow 2 num den (by decide) exponent
  exact_mod_cast hquotient

/-- Dividing by a power of ten, on either side of the fraction. -/
theorem overPowerOfTen_quotient (num den : Nat) (exponent : Int) :
    ((overPowerOfTen num den exponent).1 : ℚ) / (overPowerOfTen num den exponent).2 =
      num / den / 10 ^ exponent := by
  have hquotient := quotient_over_pow 10 num den (by decide) exponent
  exact_mod_cast hquotient

theorem overPowerOfTwo_pos (num : Nat) {den : Nat} (hden : 0 < den) (exponent : Int) :
    0 < (overPowerOfTwo num den exponent).2 := by
  unfold overPowerOfTwo
  split
  · exact Nat.mul_pos hden (Nat.pow_pos (by decide))
  · exact hden

theorem overPowerOfTen_pos (num : Nat) {den : Nat} (hden : 0 < den) (exponent : Int) :
    0 < (overPowerOfTen num den exponent).2 := by
  unfold overPowerOfTen
  split
  · exact Nat.mul_pos hden (Nat.pow_pos (by decide))
  · exact hden

/-- Rounding does not see a common factor. -/
theorem roundQuotient_mul (num den : Nat) {factor : Nat} (hfactor : 0 < factor) :
    roundQuotient (num * factor) (den * factor) = roundQuotient num den := by
  have hdiv : num * factor / (den * factor) = num / den := Nat.mul_div_mul_right _ _ hfactor
  have hmod : num * factor % (den * factor) = num % den * factor := Nat.mul_mod_mul_right _ _ _
  have hlt : 2 * (num % den * factor) < den * factor ↔ 2 * (num % den) < den := by
    rw [← Nat.mul_assoc]
    exact Nat.mul_lt_mul_right hfactor
  have hgt : den * factor < 2 * (num % den * factor) ↔ den < 2 * (num % den) := by
    rw [← Nat.mul_assoc]
    exact Nat.mul_lt_mul_right hfactor
  simp only [roundQuotient, hdiv, hmod, hlt, hgt]

/-- Rounding depends on the quotient only. -/
theorem roundQuotient_congr {num den num' den' : Nat} (hden : 0 < den) (hden' : 0 < den')
    (hquotient : (num : ℚ) / den = num' / den') :
    roundQuotient num den = roundQuotient num' den' := by
  have hcross : num * den' = num' * den := by
    rw [div_eq_div_iff (by exact_mod_cast hden.ne') (by exact_mod_cast hden'.ne')] at hquotient
    exact_mod_cast hquotient
  calc roundQuotient num den = roundQuotient (num * den') (den * den') :=
        (roundQuotient_mul num den hden').symm
    _ = roundQuotient (num' * den) (den' * den) := by rw [hcross, Nat.mul_comm den den']
    _ = roundQuotient num' den' := roundQuotient_mul num' den' hden

theorem roundQuotient_one (n : Nat) : roundQuotient n 1 = n := by
  simp [roundQuotient, Nat.mod_one]

namespace Binary64

/-! ## The nearest number of a quotient -/

/-- A binary logarithm is known from the two powers around a number. -/
theorem log_eq_of_bounds {x : ℚ} {k : Int} (hlow : 2 ^ k ≤ x) (hhigh : x < 2 ^ (k + 1)) :
    Int.log 2 x = k := by
  have hpos : 0 < x := lt_of_lt_of_le (by positivity) hlow
  have hle : k ≤ Int.log 2 x :=
    (Int.zpow_le_iff_le_log (by decide) hpos).mp (by exact_mod_cast hlow)
  have hlt : Int.log 2 x < k + 1 :=
    (Int.lt_zpow_iff_log_lt (by decide) hpos).mp (by exact_mod_cast hhigh)
  omega

/-- The logarithms of the parts of a quotient give its logarithm up to one. -/
theorem quotient_bounds {num den : Nat} (hnum : 0 < num) (hden : 0 < den) :
    (2 : ℚ) ^ ((Nat.log2 num : Int) - Nat.log2 den - 1) < (num : ℚ) / den ∧
      (num : ℚ) / den < 2 ^ ((Nat.log2 num : Int) - Nat.log2 den + 1) := by
  have hnumLow : (2 : ℚ) ^ (Nat.log2 num : Int) ≤ num := by
    exact_mod_cast Nat.log2_self_le hnum.ne'
  have hnumHigh : (num : ℚ) < 2 ^ ((Nat.log2 num : Int) + 1) := by
    exact_mod_cast Nat.lt_log2_self
  have hdenLow : (2 : ℚ) ^ (Nat.log2 den : Int) ≤ den := by
    exact_mod_cast Nat.log2_self_le hden.ne'
  have hdenHigh : (den : ℚ) < 2 ^ ((Nat.log2 den : Int) + 1) := by
    exact_mod_cast Nat.lt_log2_self
  have hdenPos : (0 : ℚ) < den := by exact_mod_cast hden
  have htwo : (2 : ℚ) ≠ 0 := by norm_num
  constructor
  · rw [lt_div_iff₀ hdenPos]
    calc (2 : ℚ) ^ ((Nat.log2 num : Int) - Nat.log2 den - 1) * den
        < 2 ^ ((Nat.log2 num : Int) - Nat.log2 den - 1) * 2 ^ ((Nat.log2 den : Int) + 1) := by
          gcongr
      _ = 2 ^ (Nat.log2 num : Int) := by
          rw [← zpow_add₀ htwo]
          congr 1
          ring
      _ ≤ num := hnumLow
  · rw [div_lt_iff₀ hdenPos]
    calc (num : ℚ) < 2 ^ ((Nat.log2 num : Int) + 1) := hnumHigh
      _ = 2 ^ ((Nat.log2 num : Int) - Nat.log2 den + 1) * 2 ^ (Nat.log2 den : Int) := by
          rw [← zpow_add₀ htwo]
          congr 1
          ring
      _ ≤ 2 ^ ((Nat.log2 num : Int) - Nat.log2 den + 1) * den := by gcongr

/-- The exponent of a quotient stands 52 places below its logarithm, or is the smallest. -/
theorem exponentOf_eq_log {num den : Nat} (hnum : 0 < num) (hden : 0 < den) :
    exponentOf num den = max (Int.log 2 ((num : ℚ) / den) - 52) (-1074) := by
  set guess : Int := (Nat.log2 num : Int) - (Nat.log2 den : Int) - 52 with hguess
  obtain ⟨hlow, hhigh⟩ := quotient_bounds hnum hden
  have hscaledPos : (0 : ℚ) < (overPowerOfTwo num den guess).2 := by
    exact_mod_cast overPowerOfTwo_pos num hden guess
  -- The test on the scaled parts compares the quotient with a power of two.
  have htest : (overPowerOfTwo num den guess).1 <
      Nat.pow 2 52 * (overPowerOfTwo num den guess).2 ↔ (num : ℚ) / den < 2 ^ (guess + 52) := by
    have hcast : (overPowerOfTwo num den guess).1 <
        Nat.pow 2 52 * (overPowerOfTwo num den guess).2 ↔
          ((overPowerOfTwo num den guess).1 : ℚ) / (overPowerOfTwo num den guess).2 <
            2 ^ (52 : Int) := by
      rw [div_lt_iff₀ hscaledPos]
      exact_mod_cast Iff.rfl
    rw [hcast, overPowerOfTwo_quotient, div_lt_iff₀ (by positivity), ← zpow_add₀ (by norm_num),
      add_comm]
  have hlog : Int.log 2 ((num : ℚ) / den) - 52 =
      if (overPowerOfTwo num den guess).1 < Nat.pow 2 52 * (overPowerOfTwo num den guess).2
        then guess - 1 else guess := by
    split
    · next hsmall =>
      have hplace : guess + 51 = (Nat.log2 num : Int) - Nat.log2 den - 1 := by omega
      have hlow' : (2 : ℚ) ^ (guess + 51) ≤ num / den := by
        rw [hplace]
        exact hlow.le
      have hnext : guess + 51 + 1 = guess + 52 := by omega
      have hlog := log_eq_of_bounds hlow' (by rw [hnext]; exact htest.mp hsmall)
      omega
    · next hlarge =>
      have hlow' : (2 : ℚ) ^ (guess + 52) ≤ num / den :=
        not_lt.mp fun hsmall => hlarge (htest.mpr hsmall)
      have hplace : guess + 52 + 1 = (Nat.log2 num : Int) - Nat.log2 den + 1 := by omega
      have hlog := log_eq_of_bounds hlow' (by rw [hplace]; exact hhigh)
      omega
  rw [hlog]
  rfl

/-- Equal quotients have the same nearest number. -/
theorem ofRatio_congr (negative : Bool) {num den num' den' : Nat} (hden : 0 < den)
    (hden' : 0 < den') (hquotient : (num : ℚ) / den = num' / den') :
    ofRatio negative num den = ofRatio negative num' den' := by
  have hzero : num = 0 ↔ num' = 0 := by
    have hne : (den : ℚ) ≠ 0 := by exact_mod_cast hden.ne'
    have hne' : (den' : ℚ) ≠ 0 := by exact_mod_cast hden'.ne'
    have hiff : (num : ℚ) / den = 0 ↔ (num' : ℚ) / den' = 0 := by rw [hquotient]
    simpa [div_eq_zero_iff, hne, hne'] using hiff
  by_cases hnum : num = 0
  · simp only [ofRatio, if_pos hnum, if_pos (hzero.mp hnum)]
  · have hnum' : num' ≠ 0 := fun h => hnum (hzero.mpr h)
    have hexponent : exponentOf num den = exponentOf num' den' := by
      rw [exponentOf_eq_log (Nat.pos_of_ne_zero hnum) hden,
        exponentOf_eq_log (Nat.pos_of_ne_zero hnum') hden', hquotient]
    have hround := roundQuotient_congr (overPowerOfTwo_pos num hden (exponentOf num den))
      (overPowerOfTwo_pos num' hden' (exponentOf num den))
      (by rw [overPowerOfTwo_quotient, overPowerOfTwo_quotient, hquotient])
    simp only [ofRatio, if_neg hnum, if_neg hnum', ← hexponent, hround]

/-- The exponent of a number of the format is found again. -/
theorem exponentOf_of_eq {num den significand : Nat} {exponent : Int} (hden : 0 < den)
    (hsignificand : 0 < significand) (hform : CanonicalForm significand exponent)
    (hquotient : (num : ℚ) / den = significand * 2 ^ exponent) :
    exponentOf num den = exponent := by
  obtain ⟨hhigh, hleast, -, hnormal⟩ := hform
  have hvalue : (0 : ℚ) < significand * 2 ^ exponent := by positivity
  have hnum : 0 < num := by
    rcases Nat.eq_zero_or_pos num with rfl | hpos
    · simp at hquotient
      rcases hquotient with h | h
      · omega
      · exact absurd h (by positivity)
    · exact hpos
  have hlt : (significand : ℚ) * 2 ^ exponent < 2 ^ (53 + exponent) := by
    rw [zpow_add₀ (by norm_num)]
    have : (significand : ℚ) < 2 ^ (53 : Int) := by exact_mod_cast hhigh
    gcongr
  rw [exponentOf_eq_log hnum hden, hquotient]
  have hlog : Int.log 2 ((significand : ℚ) * 2 ^ exponent) < 53 + exponent :=
    (Int.lt_zpow_iff_log_lt (by decide) hvalue).mp (by exact_mod_cast hlt)
  -- With all its digits the significand fixes the logarithm; with fewer the exponent is the least.
  rcases hnormal with hnormal | hsmallest
  · have hge : (2 : ℚ) ^ (52 + exponent) ≤ significand * 2 ^ exponent := by
      rw [zpow_add₀ (by norm_num)]
      have : (2 : ℚ) ^ (52 : Int) ≤ significand := by exact_mod_cast hnormal
      gcongr
    have hlow : 52 + exponent ≤ Int.log 2 ((significand : ℚ) * 2 ^ exponent) :=
      (Int.zpow_le_iff_le_log (by decide) hvalue).mp (by exact_mod_cast hge)
    omega
  · omega

/-- A number of the format is the nearest one to itself. -/
theorem ofRatio_of_eq (negative : Bool) {num den significand : Nat} {exponent : Int}
    (hden : 0 < den) (hsignificand : 0 < significand) (hform : CanonicalForm significand exponent)
    (hquotient : (num : ℚ) / den = significand * 2 ^ exponent) :
    ofRatio negative num den = finite negative significand exponent hform := by
  have hnum : num ≠ 0 := by
    rintro rfl
    have hpos : (0 : ℚ) < significand * 2 ^ exponent := by positivity
    simp [← hquotient] at hpos
  have hexponent := exponentOf_of_eq hden hsignificand hform hquotient
  have hround : roundQuotient (overPowerOfTwo num den exponent).1
      (overPowerOfTwo num den exponent).2 = significand := by
    have hexact : ((overPowerOfTwo num den exponent).1 : ℚ) /
        (overPowerOfTwo num den exponent).2 = (significand : ℚ) / (1 : Nat) := by
      rw [overPowerOfTwo_quotient, hquotient, mul_div_assoc, div_self (by positivity)]
      simp
    rw [roundQuotient_congr (overPowerOfTwo_pos num hden exponent) (by decide) hexact,
      roundQuotient_one]
  have hbelow : significand ≠ Nat.pow 2 53 := hform.1.ne
  simp only [ofRatio, if_neg hnum, hexponent, hround, if_neg hbelow, ofForm, dif_pos hform]

end Binary64

/-! ## Decimal numbers -/

namespace Decimal

/-- The magnitude that a decimal number stands for. -/
def magnitude (d : Decimal) : ℚ :=
  d.coefficient * 10 ^ d.exponent

/-- A decimal with a coefficient is not zero. -/
theorem magnitude_pos {d : Decimal} (hd : d.coefficient ≠ 0) : 0 < d.magnitude := by
  have hcoefficient : (0 : ℚ) < d.coefficient := by exact_mod_cast Nat.pos_of_ne_zero hd
  unfold magnitude
  positivity

/-- A decimal is zero just if its coefficient is. -/
theorem magnitude_eq_zero_iff (d : Decimal) : d.magnitude = 0 ↔ d.coefficient = 0 := by
  constructor
  · intro hzero
    by_contra hd
    exact (magnitude_pos hd).ne' hzero
  · intro hzero
    simp [magnitude, hzero]

/-- The place of the highest digit is the decimal logarithm. -/
theorem exponent_add_decimalLength {d : Decimal} (hd : d.coefficient ≠ 0) :
    d.exponent + (decimalLength d.coefficient : Int) = Int.log 10 d.magnitude + 1 := by
  set length := decimalLength d.coefficient with hlength
  have hpos : 0 < length := Nat.length_toDigits_pos
  -- The length of the coefficient bounds it by two powers of ten, and so the number.
  have hhigh : d.coefficient < 10 ^ length :=
    (Nat.length_toDigits_le_iff (by decide) hpos).mp le_rfl
  have hlow : 10 ^ (length - 1) ≤ d.coefficient := by
    rcases Nat.eq_zero_or_pos (length - 1) with hzero | hmore
    · rw [hzero]
      exact Nat.pos_of_ne_zero hd
    · by_contra hless
      have hshort := (Nat.length_toDigits_le_iff (by decide) hmore).mpr (not_le.mp hless)
      exact absurd hshort (by rw [← decimalDigits, ← decimalLength, ← hlength]; omega)
  have hlt : d.magnitude < ((10 : Nat) : ℚ) ^ ((length : Int) + d.exponent) := by
    rw [zpow_add₀ (by norm_num), magnitude]
    have : (d.coefficient : ℚ) < ((10 : Nat) : ℚ) ^ (length : Int) := by exact_mod_cast hhigh
    push_cast at this ⊢
    gcongr
  have hge : ((10 : Nat) : ℚ) ^ (((length - 1 : Nat) : Int) + d.exponent) ≤ d.magnitude := by
    rw [zpow_add₀ (by norm_num), magnitude]
    have : ((10 : Nat) : ℚ) ^ ((length - 1 : Nat) : Int) ≤ d.coefficient := by
      exact_mod_cast hlow
    push_cast at this ⊢
    gcongr
  have hlogLt := (Int.lt_zpow_iff_log_lt (by decide) (magnitude_pos hd)).mp hlt
  have hlogGe := (Int.zpow_le_iff_le_log (by decide) (magnitude_pos hd)).mp hge
  omega

/-- Equal decimal numbers read as the same binary number. -/
theorem toBinary64_congr {d e : Decimal} (hsign : d.negative = e.negative)
    (hvalue : d.magnitude = e.magnitude) : d.toBinary64 = e.toBinary64 := by
  have hzero : d.coefficient = 0 ↔ e.coefficient = 0 := by
    rw [← magnitude_eq_zero_iff, ← magnitude_eq_zero_iff, hvalue]
  by_cases hd : d.coefficient = 0
  · simp only [toBinary64, if_pos hd, if_pos (hzero.mp hd), hsign]
  · have he : e.coefficient ≠ 0 := fun h => hd (hzero.mpr h)
    have hplace : d.exponent + (decimalLength d.coefficient : Int) =
        e.exponent + (decimalLength e.coefficient : Int) := by
      rw [exponent_add_decimalLength hd, exponent_add_decimalLength he, hvalue]
    have hquotient (f : Decimal) : ((overPowerOfTen f.coefficient 1 (-f.exponent)).1 : ℚ) /
        (overPowerOfTen f.coefficient 1 (-f.exponent)).2 = f.magnitude := by
      rw [overPowerOfTen_quotient, magnitude]
      simp
    have hratio := Binary64.ofRatio_congr e.negative
      (overPowerOfTen_pos d.coefficient (by decide : 0 < 1) (-d.exponent))
      (overPowerOfTen_pos e.coefficient (by decide : 0 < 1) (-e.exponent))
      (by rw [hquotient, hquotient, hvalue])
    simp only [toBinary64, if_neg hd, if_neg he, hplace, hsign, hratio]

theorem stripZeros_negative (fuel : Nat) (d : Decimal) :
    (d.stripZeros fuel).negative = d.negative := by
  fun_induction stripZeros fuel d with
  | case1 d => rfl
  | case2 fuel d _ ih => exact ih
  | case3 => rfl

/-- Zeros at the end of the coefficient do not change the value. -/
theorem stripZeros_magnitude (fuel : Nat) (d : Decimal) :
    (d.stripZeros fuel).magnitude = d.magnitude := by
  fun_induction stripZeros fuel d with
  | case1 d => rfl
  | case2 fuel d hzero ih =>
      have hcoefficient : d.coefficient / 10 * 10 = d.coefficient :=
        Nat.div_mul_cancel (Nat.dvd_of_mod_eq_zero hzero.2)
      rw [ih, magnitude, magnitude, zpow_add₀ (by norm_num), zpow_one]
      have hcast : ((d.coefficient / 10 : Nat) : ℚ) * 10 = d.coefficient := by
        exact_mod_cast hcoefficient
      calc ((d.coefficient / 10 : Nat) : ℚ) * (10 ^ d.exponent * 10)
          = ((d.coefficient / 10 : Nat) : ℚ) * 10 * 10 ^ d.exponent := by ring
        _ = d.coefficient * 10 ^ d.exponent := by rw [hcast]
  | case3 => rfl

end Decimal

namespace Binary64

/-! ## Decimal forms of binary numbers -/

/-- The exact decimal has the value of the binary number. -/
theorem exactDecimal_magnitude (negative : Bool) (significand : Nat) (exponent : Int) :
    (exactDecimal negative significand exponent).magnitude = significand * 2 ^ exponent := by
  unfold exactDecimal
  split
  · next hexponent =>
    obtain ⟨k, rfl⟩ := Int.eq_ofNat_of_zero_le hexponent
    simp [Decimal.magnitude]
  · next hexponent =>
    obtain ⟨k, hk⟩ := Int.eq_ofNat_of_zero_le (show 0 ≤ -exponent by omega)
    obtain rfl : exponent = -(k : Int) := by omega
    have hten : (10 : ℚ) ^ k = 5 ^ k * 2 ^ k := by
      rw [← mul_pow]
      norm_num
    simp only [Decimal.magnitude, neg_neg, Int.toNat_natCast, Nat.pow_eq, zpow_neg, zpow_natCast]
    push_cast
    rw [hten]
    field_simp

theorem exactDecimal_negative (negative : Bool) (significand : Nat) (exponent : Int) :
    (exactDecimal negative significand exponent).negative = negative := by
  unfold exactDecimal
  split <;> rfl

/-- The magnitudes of the format stand between two powers of ten. -/
theorem log_ten_bounds {significand : Nat} {exponent : Int} (hsignificand : 0 < significand)
    (hform : CanonicalForm significand exponent) :
    -324 ≤ Int.log 10 ((significand : ℚ) * 2 ^ exponent) ∧
      Int.log 10 ((significand : ℚ) * 2 ^ exponent) < 309 := by
  obtain ⟨hhigh, hleast, hmost, -⟩ := hform
  have hvalue : (0 : ℚ) < significand * 2 ^ exponent := by positivity
  have hone : (1 : ℚ) ≤ significand := by exact_mod_cast hsignificand
  constructor
  · refine (Int.zpow_le_iff_le_log (by decide) hvalue).mp ?_
    have hpowers : (2 : ℚ) ^ 1074 ≤ 10 ^ 324 := by
      exact_mod_cast (by decide +kernel : 2 ^ 1074 ≤ 10 ^ 324)
    calc ((10 : Nat) : ℚ) ^ (-324 : Int) = (10 ^ 324)⁻¹ := by
          rw [zpow_neg]
          rfl
      _ ≤ (2 ^ 1074)⁻¹ := by gcongr
      _ = 2 ^ (-1074 : Int) := by
          rw [zpow_neg]
          rfl
      _ ≤ 2 ^ exponent := zpow_le_zpow_right₀ (by norm_num) hleast
      _ ≤ significand * 2 ^ exponent := le_mul_of_one_le_left (by positivity) hone
  · refine (Int.lt_zpow_iff_log_lt (by decide) hvalue).mp ?_
    have hbelow : (significand : ℚ) < 2 ^ (53 : Int) := by exact_mod_cast hhigh
    have hpowers : (2 : ℚ) ^ 53 * 2 ^ 971 ≤ 10 ^ 309 := by
      exact_mod_cast (by decide +kernel : 2 ^ 53 * 2 ^ 971 ≤ 10 ^ 309)
    calc (significand : ℚ) * 2 ^ exponent < 2 ^ (53 : Int) * 2 ^ exponent := by gcongr
      _ ≤ 2 ^ (53 : Int) * 2 ^ (971 : Int) := by
          gcongr
          norm_num
      _ ≤ ((10 : Nat) : ℚ) ^ (309 : Int) := by exact_mod_cast hpowers

/-- The exact decimal form of a number reads back. -/
theorem toBinary64_exactDecimal (negative : Bool) {significand : Nat} {exponent : Int}
    (hsignificand : 0 < significand) (hform : CanonicalForm significand exponent) :
    (exactDecimal negative significand exponent).toBinary64 =
      finite negative significand exponent hform := by
  set d := exactDecimal negative significand exponent with hd
  have hmagnitude : d.magnitude = significand * 2 ^ exponent :=
    exactDecimal_magnitude negative significand exponent
  have hnonzero : d.coefficient ≠ 0 := by
    intro hzero
    have hpos : (0 : ℚ) < significand * 2 ^ exponent := by positivity
    rw [← hmagnitude, (Decimal.magnitude_eq_zero_iff d).mpr hzero] at hpos
    exact lt_irrefl _ hpos
  obtain ⟨hlow, hhigh⟩ := log_ten_bounds hsignificand hform
  have hplace := Decimal.exponent_add_decimalLength hnonzero
  rw [hmagnitude] at hplace
  have hnotLarge : ¬ 310 < d.exponent + (decimalLength d.coefficient : Int) := by omega
  have hnotSmall : ¬ d.exponent + (decimalLength d.coefficient : Int) < -330 := by omega
  simp only [Decimal.toBinary64, if_neg hnonzero, if_neg hnotLarge, if_neg hnotSmall]
  rw [show d.negative = negative from exactDecimal_negative negative significand exponent]
  refine ofRatio_of_eq negative (overPowerOfTen_pos _ (by decide) _) hsignificand hform ?_
  rw [overPowerOfTen_quotient, ← hmagnitude, Decimal.magnitude]
  simp

/-- A decimal that was found to read back does. -/
theorem toBinary64_of_readsBackWith {x : Binary64} {negative : Bool} {significand : Nat}
    {exponent : Int} {digits : Nat} {d : Decimal}
    (hfound : readsBackWith x negative significand exponent digits = some d) :
    d.toBinary64 = x := by
  have hchecked := List.find?_some hfound
  simpa using hchecked

/-- The shortest form of a number reads back. -/
theorem toBinary64_shortest (negative : Bool) (significand : Nat) (exponent : Int)
    (hform : CanonicalForm significand exponent) :
    (shortest negative significand exponent hform).toBinary64 =
      finite negative significand exponent hform := by
  unfold shortest
  split
  · next hzero =>
    subst hzero
    obtain rfl : exponent = -1074 := by
      rcases hform.2.2.2 with hnormal | hsmallest
      · exact absurd hnormal (by decide)
      · exact hsmallest
    simp [Decimal.toBinary64, ofForm, hform]
  · next hnonzero =>
    dsimp only
    split
    · next d hfound =>
      obtain ⟨digits, -, hread⟩ := List.exists_of_findSome?_eq_some hfound
      rw [Decimal.toBinary64_congr (Decimal.stripZeros_negative 20 d)
        (Decimal.stripZeros_magnitude 20 d)]
      exact toBinary64_of_readsBackWith hread
    · exact toBinary64_exactDecimal negative (Nat.pos_of_ne_zero hnonzero) hform

end Binary64
end QueryAlgebra
