import QueryAlgebra.Json.Parser
import QueryAlgebra.Json.Printer
import QueryAlgebra.Proofs.IntegerLists
import QueryAlgebra.Proofs.NearestBinary

/-!
# Numbers in JSON texts

A written number is read back as the number it was written from.  An integer is
read back from its digits.  Any other number is written as its shortest decimal
form, with a point or an exponent, which tells it from an integer; the decimal
number that is read has the same value, if not the same coefficient, and so the
same nearest binary number.

Main results:

- Theorem `Json.isNumeral_intText`: integers are read back.
- Theorem `Json.readsAs_decimalText`: a decimal number is read back in value.
- Theorem `Json.isNumeral_finite`: finite numbers are read back.
- Theorem `Json.scalar_of_isNumeral`: no word is taken for a number.
-/

namespace QueryAlgebra

open Scan NumberReader

/-! ## Digits -/

namespace NumberReader

/-- The value of digits is the one the library gives them. -/
theorem natOf_eq_ofDigitChars (digits : Text) : natOf digits = Nat.ofDigitChars 10 digits 0 :=
  Nat.ofDigitChars_eq_foldl.symm

/-- The digits of a number have it as their value. -/
@[simp] theorem natOf_decimalDigits (n : Nat) : natOf (decimalDigits n) = n := by
  rw [natOf_eq_ofDigitChars, decimalDigits, Nat.ofDigitChars_ten_toDigits]

/-- Zeros in front of digits do not count. -/
theorem natOf_zeros_append (k : Nat) (digits : Text) :
    natOf (List.replicate k '0' ++ digits) = natOf digits := by
  simp only [natOf_eq_ofDigitChars, Nat.ofDigitChars_append, Nat.ofDigitChars_replicate_zero,
    Nat.mul_zero]

/-- Every zero behind digits is a factor of ten. -/
theorem natOf_append_zeros (digits : Text) (k : Nat) :
    natOf (digits ++ List.replicate k '0') = natOf digits * 10 ^ k := by
  simp only [natOf_eq_ofDigitChars, Nat.ofDigitChars_append, Nat.ofDigitChars_replicate_zero]
  exact Nat.mul_comm _ _

end NumberReader

@[simp] theorem decimalDigits_ne_nil (n : Nat) : decimalDigits n ≠ [] :=
  Nat.toDigits_ne_nil

/-- The digits of a number other than zero do not start with a zero. -/
theorem head_decimalDigits_ne_zero {n : Nat} (hn : n ≠ 0) : (decimalDigits n).head? ≠ some '0' := by
  induction n using Nat.strongRecOn with
  | ind n ih =>
      rcases Nat.lt_or_ge n 10 with hsmall | hlarge
      · rw [decimalDigits, Nat.toDigits_of_lt_base hsmall]
        interval_cases n
        all_goals first | exact absurd rfl hn | decide
      · rw [decimalDigits, Nat.toDigits_of_base_le (by decide) hlarge,
          List.head?_append_of_ne_nil _ Nat.toDigits_ne_nil]
        exact ih (n / 10) (by omega) (by omega)

namespace Json

/-! ## Parts of a number -/

/-- The end of a text, or a character that may follow a value within one. -/
def Ends (rest : Text) : Prop :=
  ∀ c, rest.head? = some c → c = ',' ∨ c = ']' ∨ c = '\x7d'

@[simp] theorem ends_nil : Ends [] := by
  intro c hc
  simp at hc

theorem ends_cons {c : Char} (hc : c = ',' ∨ c = ']' ∨ c = '\x7d') (rest : Text) :
    Ends (c :: rest) := by
  intro d hd
  obtain rfl : c = d := by simpa using hd
  exact hc

theorem Ends.halts {rest : Text} (hrest : Ends rest) : Halts Char.isDigit rest := by
  intro c hc
  rcases hrest c hc with rfl | rfl | rfl <;> decide

theorem Ends.fractionPart {rest : Text} (hrest : Ends rest) : fractionPart rest = ([], rest) := by
  cases rest with
  | nil => rfl
  | cons c rest =>
      rcases hrest c rfl with rfl | rfl | rfl <;> rfl

theorem Ends.exponentPart {rest : Text} (hrest : Ends rest) :
    exponentPart rest = (none, rest) := by
  cases rest with
  | nil => rfl
  | cons c rest =>
      rcases hrest c rfl with rfl | rfl | rfl <;> rfl

/-- Digits are a whole part if they are a zero alone or do not start with one. -/
theorem wholePart_append {digits rest : Text} (hne : digits ≠ [])
    (hdigits : ∀ c ∈ digits, c.isDigit = true) (hzero : digits.head? = some '0' → digits = ['0'])
    (hrest : Halts Char.isDigit rest) : wholePart (digits ++ rest) = some (digits, rest) := by
  cases digits with
  | nil => exact absurd rfl hne
  | cons c more =>
      have hmore : ∀ d ∈ more, d.isDigit = true := fun d hd =>
        hdigits d (List.mem_cons_of_mem c hd)
      by_cases hc : c = '0'
      · subst hc
        obtain rfl : more = [] := by simpa using hzero rfl
        rfl
      · have hdigit : c.isDigit = true := hdigits c List.mem_cons_self
        simp only [List.cons_append, wholePart, if_neg hc, if_pos hdigit,
          takeWhile_append_of_halts hmore hrest, dropWhile_append_of_halts hmore hrest]

/-- The digits of a number are read as a whole part. -/
theorem wholePart_decimalDigits (n : Nat) {rest : Text} (hrest : Halts Char.isDigit rest) :
    wholePart (decimalDigits n ++ rest) = some (decimalDigits n, rest) := by
  refine wholePart_append (decimalDigits_ne_nil n) (fun _ => isDigit_of_mem_decimalDigits) ?_ hrest
  intro hhead
  by_cases hn : n = 0
  · subst hn
    rfl
  · exact absurd hhead (head_decimalDigits_ne_zero hn)

/-- Digits behind a point are read as a fraction. -/
theorem fractionPart_append {digits rest : Text} (hne : digits ≠ [])
    (hdigits : ∀ c ∈ digits, c.isDigit = true) (hrest : Halts Char.isDigit rest) :
    fractionPart ('.' :: (digits ++ rest)) = (digits, rest) := by
  have hempty : digits.isEmpty = false := by simpa using hne
  simp only [fractionPart, takeWhile_append_of_halts hdigits hrest,
    dropWhile_append_of_halts hdigits hrest, hempty]
  rfl

/-- A written exponent is read back in every style. -/
theorem exponentPart_exponentText (style : NumberStyle) (top : Int) {rest : Text}
    (hrest : Halts Char.isDigit rest) :
    exponentPart (style.exponentText top ++ rest) = (some top, rest) := by
  set digits := decimalDigits top.natAbs with hdef
  set padded := List.replicate (style.exponentWidth - digits.length) '0' ++ digits with hpadded
  have hdigits : ∀ c ∈ padded, c.isDigit = true := by
    intro c hc
    rcases List.mem_append.mp hc with hzero | hdigit
    · rw [List.eq_of_mem_replicate hzero]
      decide
    · exact isDigit_of_mem_decimalDigits hdigit
  have hempty : padded.isEmpty = false := by
    simp [hpadded, hdef]
  have hvalue : natOf padded = top.natAbs := by
    rw [hpadded, natOf_zeros_append, hdef, natOf_decimalDigits]
  have htext : style.exponentText top ++ rest =
      'e' :: (if top < 0 then '-' else '+') :: (padded ++ rest) := by
    simp [NumberStyle.exponentText, hpadded, hdef]
  rw [htext]
  by_cases htop : top < 0
  · have hneg : -(top.natAbs : Int) = top := by omega
    simp only [if_pos htop, exponentPart, signOf, takeWhile_append_of_halts hdigits hrest,
      dropWhile_append_of_halts hdigits hrest, hempty, hvalue, hneg]
    rfl
  · have hpos : (top.natAbs : Int) = top := by omega
    simp only [if_neg htop, exponentPart, signOf, takeWhile_append_of_halts hdigits hrest,
      dropWhile_append_of_halts hdigits hrest, hempty, hvalue, hpos]
    rfl

/-! ## Signs -/

/-- A number behind its sign. -/
def unsignedNumeral? (negative : Bool) (unsigned : Text) : Option (Json × Text) :=
  (wholePart unsigned).map fun (whole, rest) =>
    let (fraction, rest) := fractionPart rest
    let (exponent, rest) := exponentPart rest
    if fraction.isEmpty && exponent.isNone then
      let n : Int := natOf whole
      (.int (if negative then -n else n), rest)
    else
      let d : Decimal :=
        ⟨negative, natOf (whole ++ fraction), exponent.getD 0 - (fraction.length : Int)⟩
      (.float d.toBinary64, rest)

theorem numeral?_neg (rest : Text) : numeral? ('-' :: rest) = unsignedNumeral? true rest := by
  unfold numeral? unsignedNumeral?
  generalize wholePart = whole
  generalize Decimal.toBinary64 = nearest
  rfl

/-- A numeral without a minus is not negative. -/
theorem numeral?_of_ne {c : Char} (hc : c ≠ '-') (rest : Text) :
    numeral? (c :: rest) = unsignedNumeral? false (c :: rest) := by
  unfold numeral? unsignedNumeral?
  generalize wholePart = whole
  split
  next hcut =>
  dsimp only at hcut ⊢
  split at hcut
  · next hcons => exact absurd (List.head_eq_of_cons_eq hcons) hc
  · cases hcut
    trivial

/-- A sign is told from the digits that follow it. -/
theorem numeral?_sign_append (negative : Bool) {c : Char} (hc : c.isDigit = true) (rest : Text) :
    numeral? (NumberStyle.sign negative ++ c :: rest) = unsignedNumeral? negative (c :: rest) := by
  cases negative with
  | true => exact numeral?_neg (c :: rest)
  | false =>
      refine numeral?_of_ne ?_ rest
      rintro rfl
      exact absurd hc (by decide)

/-- A whole part alone is an integer. -/
theorem unsignedNumeral?_int {negative : Bool} {unsigned whole rest : Text}
    (hwhole : wholePart unsigned = some (whole, rest)) (hrest : Ends rest) :
    unsignedNumeral? negative unsigned =
      some (.int (if negative then -(natOf whole : Int) else natOf whole), rest) := by
  simp [unsignedNumeral?, hwhole, hrest.fractionPart, hrest.exponentPart]

/-- A number with a fraction or an exponent stands for a decimal number. -/
theorem unsignedNumeral?_float {negative : Bool} {unsigned whole fraction rest rest' rest'' : Text}
    {exponent : Option Int} (hwhole : wholePart unsigned = some (whole, rest))
    (hfraction : fractionPart rest = (fraction, rest'))
    (hexponent : exponentPart rest' = (exponent, rest''))
    (hsome : fraction ≠ [] ∨ exponent ≠ none) :
    unsignedNumeral? negative unsigned =
      some (.float (Decimal.toBinary64 ⟨negative, natOf (whole ++ fraction),
        exponent.getD 0 - (fraction.length : Int)⟩), rest'') := by
  have htest : (fraction.isEmpty && exponent.isNone) = false := by
    rcases hsome with hfraction | hexponent
    · simp [hfraction]
    · simp [Option.isNone_eq_false_iff, Option.isSome_iff_ne_none.mpr hexponent]
  simp only [unsignedNumeral?, hwhole, Option.map_some, hfraction, hexponent, htest,
    Bool.false_eq_true, if_false]

/-! ## Numerals -/

/-- A text starts with a sign and digits that stand for a value, and the rest follows. -/
def IsNumeral (text : Text) (value : Json) (rest : Text) : Prop :=
  ∃ negative unsigned, text = NumberStyle.sign negative ++ unsigned ∧
    unsignedNumeral? negative unsigned = some (value, rest)

/-- An integer is written as its sign and its digits. -/
theorem intText_eq_sign_append (n : Int) :
    intText n = NumberStyle.sign (decide (n < 0)) ++ decimalDigits n.natAbs := by
  by_cases hn : n < 0 <;> simp [intText, NumberStyle.sign, hn]

/-- Integers are read back. -/
theorem isNumeral_intText (n : Int) {rest : Text} (hrest : Ends rest) :
    IsNumeral (intText n ++ rest) (.int n) rest := by
  refine ⟨decide (n < 0), decimalDigits n.natAbs ++ rest, ?_, ?_⟩
  · rw [intText_eq_sign_append, List.append_assoc]
  · rw [unsignedNumeral?_int (wholePart_decimalDigits n.natAbs hrest.halts) hrest,
      natOf_decimalDigits]
    by_cases hn : n < 0
    · have habs : -(n.natAbs : Int) = n := by omega
      simp only [decide_eq_true hn, if_true, habs]
    · have habs : (n.natAbs : Int) = n := by omega
      simp only [decide_eq_false hn, Bool.false_eq_true, if_false, habs]

/-! ## Decimal numbers -/

/-- Behind a sign, a text starts with a decimal number of a magnitude, and the rest follows. -/
def ReadsAs (negative : Bool) (unsigned : Text) (magnitude : ℚ) (rest : Text) : Prop :=
  ∃ d : Decimal, d.negative = negative ∧ d.magnitude = magnitude ∧
    unsignedNumeral? negative unsigned = some (.float d.toBinary64, rest)

section Decimals

variable {negative : Bool} {rest : Text}

/-- A numeral with a fraction or an exponent is read as the number its parts make. -/
theorem readsAs_of_parts {unsigned whole fraction rest' rest'' : Text} {exponent : Option Int}
    {magnitude : ℚ} (hwhole : wholePart unsigned = some (whole, rest'))
    (hfraction : fractionPart rest' = (fraction, rest''))
    (hexponent : exponentPart rest'' = (exponent, rest))
    (hsome : fraction ≠ [] ∨ exponent ≠ none)
    (hvalue : (natOf (whole ++ fraction) : ℚ) *
      10 ^ (exponent.getD 0 - (fraction.length : Int)) = magnitude) :
    ReadsAs negative unsigned magnitude rest :=
  ⟨⟨negative, natOf (whole ++ fraction), exponent.getD 0 - (fraction.length : Int)⟩, rfl, hvalue,
    unsignedNumeral?_float hwhole hfraction hexponent hsome⟩

/-- Digits with an exponent. -/
theorem readsAs_scientific (style : NumberStyle) (n : Nat) (top : Int) (hrest : Ends rest) :
    ReadsAs negative
      (NumberStyle.pointed (decimalDigits n) ++ style.exponentText top ++ rest)
      (n * 10 ^ (top - (decimalLength n : Int) + 1)) rest := by
  have hexponent := exponentPart_exponentText style top hrest.halts
  have hhalts : Halts Char.isDigit (style.exponentText top ++ rest) := by
    simp [NumberStyle.exponentText]
  have hall : ∀ c ∈ decimalDigits n, c.isDigit = true := fun _ => isDigit_of_mem_decimalDigits
  have hvalue := natOf_decimalDigits n
  rw [decimalLength, List.append_assoc]
  generalize hdigits : decimalDigits n = digits at hall hvalue ⊢
  -- A point is written only where there is more than one digit.
  rcases digits with _ | ⟨c, _ | ⟨d, more⟩⟩
  · exact absurd hdigits (decimalDigits_ne_nil n)
  · have hfraction : fractionPart (style.exponentText top ++ rest) =
        ([], style.exponentText top ++ rest) := by
      simp [NumberStyle.exponentText, fractionPart]
    have hwhole : wholePart ([c] ++ (style.exponentText top ++ rest)) =
        some ([c], style.exponentText top ++ rest) :=
      wholePart_append (by simp) hall (by simp) hhalts
    refine readsAs_of_parts hwhole hfraction hexponent (Or.inr (by simp)) ?_
    simp [hvalue]
  · have hmore : ∀ e ∈ d :: more, e.isDigit = true := fun e he =>
      hall e (List.mem_cons_of_mem c he)
    have hwhole : wholePart ([c] ++ ('.' :: (d :: more ++ (style.exponentText top ++ rest)))) =
        some ([c], '.' :: (d :: more ++ (style.exponentText top ++ rest))) :=
      wholePart_append (by simp) (by simpa using hall c) (by simp) (by simp)
    refine readsAs_of_parts hwhole (fractionPart_append (by simp) hmore hhalts) hexponent
      (Or.inl (by simp)) ?_
    have hplace : top - ((d :: more).length : Int) =
        top - ((c :: d :: more).length : Int) + 1 := by
      simp only [List.length_cons]
      omega
    rw [List.singleton_append, hvalue, Option.getD_some, hplace]

theorem isDigit_of_mem_zeros {k : Nat} {c : Char} (hc : c ∈ List.replicate k '0') :
    c.isDigit = true := by
  rw [List.eq_of_mem_replicate hc]
  decide

/-- Digits that all stand behind the point. -/
theorem readsAs_below (n : Nat) {top : Int} (htop : top < 0) (hrest : Ends rest) :
    ReadsAs negative
      (['0', '.'] ++ List.replicate (-top - 1).toNat '0' ++ decimalDigits n ++ rest)
      (n * 10 ^ (top - (decimalLength n : Int) + 1)) rest := by
  set zeros := List.replicate (-top - 1).toNat '0' with hzeros
  have hall : ∀ c ∈ zeros ++ decimalDigits n, c.isDigit = true := fun c hc =>
    (List.mem_append.mp hc).elim isDigit_of_mem_zeros isDigit_of_mem_decimalDigits
  have hne : zeros ++ decimalDigits n ≠ [] := by simp
  have hwhole : wholePart (['0'] ++ ('.' :: (zeros ++ decimalDigits n ++ rest))) =
      some (['0'], '.' :: (zeros ++ decimalDigits n ++ rest)) :=
    wholePart_append (by simp) (by simp) (by simp) (by simp)
  have htext : ['0', '.'] ++ zeros ++ decimalDigits n ++ rest =
      ['0'] ++ ('.' :: (zeros ++ decimalDigits n ++ rest)) := by simp
  rw [htext]
  refine readsAs_of_parts hwhole (fractionPart_append hne hall hrest.halts) hrest.exponentPart
    (Or.inl hne) ?_
  have hcoefficient : natOf (['0'] ++ (zeros ++ decimalDigits n)) = n := by
    calc natOf (['0'] ++ (zeros ++ decimalDigits n))
        = natOf (List.replicate ((-top - 1).toNat + 1) '0' ++ decimalDigits n) := rfl
      _ = n := by rw [natOf_zeros_append, natOf_decimalDigits]
  have hplace : 0 - ((zeros ++ decimalDigits n).length : Int) =
      top - (decimalLength n : Int) + 1 := by
    simp only [List.length_append, hzeros, List.length_replicate, decimalLength]
    omega
  rw [hcoefficient, Option.getD_none, hplace]

/-- Digits that all stand in front of the point, with zeros up to it. -/
theorem readsAs_whole {n k : Nat} (hn : n = 0 → k = 0) (hfits : decimalLength n ≤ k + 1)
    (hrest : Ends rest) :
    ReadsAs negative
      (decimalDigits n ++ List.replicate (k + 1 - decimalLength n) '0' ++ ['.', '0'] ++ rest)
      (n * 10 ^ ((k : Int) - (decimalLength n : Int) + 1)) rest := by
  set zeros := List.replicate (k + 1 - decimalLength n) '0' with hzeros
  have hall : ∀ c ∈ decimalDigits n ++ zeros, c.isDigit = true := fun c hc =>
    (List.mem_append.mp hc).elim isDigit_of_mem_decimalDigits isDigit_of_mem_zeros
  -- Only zero itself is written with a leading zero.
  have hzero : (decimalDigits n ++ zeros).head? = some '0' → decimalDigits n ++ zeros = ['0'] := by
    intro hhead
    rw [List.head?_append_of_ne_nil _ (decimalDigits_ne_nil n)] at hhead
    by_cases hnonzero : n = 0
    · obtain rfl := hn hnonzero
      subst hnonzero
      rfl
    · exact absurd hhead (head_decimalDigits_ne_zero hnonzero)
  have hwhole : wholePart (decimalDigits n ++ zeros ++ ('.' :: (['0'] ++ rest))) =
      some (decimalDigits n ++ zeros, '.' :: (['0'] ++ rest)) :=
    wholePart_append (by simp) hall hzero (by simp)
  have htext : decimalDigits n ++ zeros ++ ['.', '0'] ++ rest =
      decimalDigits n ++ zeros ++ ('.' :: (['0'] ++ rest)) := by simp
  rw [htext]
  refine readsAs_of_parts hwhole (fractionPart_append (by simp) (by simp) hrest.halts)
    hrest.exponentPart (Or.inl (by simp)) ?_
  -- The zero behind the point is one more zero of the coefficient.
  have hcoefficient : natOf (decimalDigits n ++ zeros ++ ['0']) =
      n * 10 ^ (k + 1 - decimalLength n + 1) := by
    rw [List.append_assoc, hzeros, ← List.replicate_succ', natOf_append_zeros, natOf_decimalDigits]
  have hplace : (k : Int) - (decimalLength n : Int) + 1 =
      ((k + 1 - decimalLength n + 1 : Nat) : Int) + (0 - (['0'].length : Int)) := by
    simp only [List.length_singleton]
    omega
  rw [hcoefficient, Option.getD_none, hplace, zpow_add₀ (by norm_num : (10 : ℚ) ≠ 0), zpow_natCast]
  push_cast
  ring

/-- Digits on both sides of the point. -/
theorem readsAs_mixed {n k : Nat} (hlong : k + 1 < decimalLength n) (hrest : Ends rest) :
    ReadsAs negative
      ((decimalDigits n).take (k + 1) ++ ['.'] ++ (decimalDigits n).drop (k + 1) ++ rest)
      (n * 10 ^ ((k : Int) - (decimalLength n : Int) + 1)) rest := by
  have hzero : n ≠ 0 := by
    rintro rfl
    have hshort : decimalLength 0 = 1 := rfl
    omega
  set front := (decimalDigits n).take (k + 1) with hfront
  set back := (decimalDigits n).drop (k + 1) with hback
  have hall : ∀ c ∈ decimalDigits n, c.isDigit = true := fun _ => isDigit_of_mem_decimalDigits
  have hhead : front.head? ≠ some '0' := by
    rw [hfront, List.head?_take]
    simpa using head_decimalDigits_ne_zero hzero
  have hwhole : wholePart (front ++ ('.' :: (back ++ rest))) =
      some (front, '.' :: (back ++ rest)) :=
    wholePart_append (by simp [hfront])
      (fun c hc => hall c (List.mem_of_mem_take hc)) (fun h => absurd h hhead) (by simp)
  have hlength : back.length = decimalLength n - (k + 1) := List.length_drop
  have hne : back ≠ [] := by
    rintro hnil
    rw [hnil, List.length_nil] at hlength
    omega
  have htext : front ++ ['.'] ++ back ++ rest = front ++ ('.' :: (back ++ rest)) := by simp
  rw [htext]
  refine readsAs_of_parts hwhole
    (fractionPart_append hne (fun c hc => hall c (List.mem_of_mem_drop hc)) hrest.halts)
    hrest.exponentPart (Or.inl hne) ?_
  have hplace : 0 - (back.length : Int) = (k : Int) - (decimalLength n : Int) + 1 := by omega
  rw [hfront, hback, List.take_append_drop, ← hback, natOf_decimalDigits, Option.getD_none, hplace]

/-- Digits written positionally, of which a zero is the plain one. -/
theorem readsAs_positional {n : Nat} {top : Int} (hn : n = 0 → top = 0) (hrest : Ends rest) :
    ReadsAs negative (NumberStyle.positional (decimalDigits n) top ++ rest)
      (n * 10 ^ (top - (decimalLength n : Int) + 1)) rest := by
  by_cases htop : top < 0
  · rw [NumberStyle.positional, if_pos htop]
    exact readsAs_below n htop hrest
  · obtain ⟨k, rfl⟩ := Int.eq_ofNat_of_zero_le (not_lt.mp htop)
    simp only [NumberStyle.positional, if_neg htop, Int.toNat_natCast]
    split
    · next hfits =>
      have hk : n = 0 → k = 0 := fun hzero => by exact_mod_cast hn hzero
      exact readsAs_whole hk hfits hrest
    · next hlong => exact readsAs_mixed (not_le.mp hlong) hrest

/-- A written decimal number is read back in value, if it is no zero but the plain one. -/
theorem readsAs_decimalText (style : NumberStyle) {d : Decimal}
    (hd : d.coefficient = 0 → d.exponent = 0) (hrest : Ends rest) :
    ∃ unsigned, style.decimalText d = NumberStyle.sign d.negative ++ unsigned ∧
      ReadsAs d.negative (unsigned ++ rest) d.magnitude rest := by
  set top := d.exponent + (decimalLength d.coefficient : Int) - 1 with htop
  have hplace : top - (decimalLength d.coefficient : Int) + 1 = d.exponent := by omega
  have hmagnitude : d.magnitude =
      d.coefficient * 10 ^ (top - (decimalLength d.coefficient : Int) + 1) := by
    rw [hplace, Decimal.magnitude]
  refine ⟨_, rfl, ?_⟩
  rw [hmagnitude]
  change ReadsAs _ ((if top < style.leastPositional ∨ style.leastScientific ≤ top then
    NumberStyle.pointed (decimalDigits d.coefficient) ++ style.exponentText top
    else NumberStyle.positional (decimalDigits d.coefficient) top) ++ rest) _ _
  split
  · exact readsAs_scientific style d.coefficient top hrest
  · refine readsAs_positional ?_ hrest
    intro hzero
    have hexponent := hd hzero
    have hlength : decimalLength d.coefficient = 1 := by rw [hzero]; rfl
    omega

end Decimals

/-- Of the decimal numbers that stand for a binary one, a zero is the plain one. -/
theorem exponent_shortest_eq_zero (negative : Bool) {significand : Nat} {exponent : Int}
    (hform : CanonicalForm significand exponent)
    (hzero : (Binary64.shortest negative significand exponent hform).coefficient = 0) :
    (Binary64.shortest negative significand exponent hform).exponent = 0 := by
  by_cases hsignificand : significand = 0
  · simp [Binary64.shortest, hsignificand]
  · -- A zero would read back as a zero.
    have hread := Binary64.toBinary64_shortest negative significand exponent hform
    simp only [Decimal.toBinary64, if_pos hzero, Binary64.ofForm] at hread
    rw [dif_pos (by decide)] at hread
    injection hread with _ hsame _
    exact absurd hsame.symm hsignificand

/-- Finite numbers are read back. -/
theorem isNumeral_finite (style : NumberStyle) (negative : Bool) {significand : Nat}
    {exponent : Int} (hform : CanonicalForm significand exponent) {rest : Text}
    (hrest : Ends rest) :
    IsNumeral (style.text (.finite negative significand exponent hform) ++ rest)
      (.float (.finite negative significand exponent hform)) rest := by
  set shortest := Binary64.shortest negative significand exponent hform with hshortest
  obtain ⟨unsigned, htext, d, hsign, hmagnitude, hread⟩ :=
    readsAs_decimalText style (exponent_shortest_eq_zero negative hform) hrest
  refine ⟨shortest.negative, unsigned ++ rest, ?_, ?_⟩
  · rw [NumberStyle.text, htext, List.append_assoc]
  · rw [hread, Decimal.toBinary64_congr hsign hmagnitude, Binary64.toBinary64_shortest]

/-! ## Numbers and words -/

/-- A numeral starts with a digit. -/
theorem exists_digit_of_unsignedNumeral? {negative : Bool} {unsigned : Text}
    {found : Json × Text} (hread : unsignedNumeral? negative unsigned = some found) :
    ∃ c rest, unsigned = c :: rest ∧ c.isDigit = true := by
  cases unsigned with
  | nil => simp [unsignedNumeral?, wholePart] at hread
  | cons c rest =>
      refine ⟨c, rest, rfl, ?_⟩
      by_contra hc
      have hzero : c ≠ '0' := by
        rintro rfl
        exact hc (by decide)
      simp [unsignedNumeral?, wholePart, hzero, hc] at hread

theorem ne_of_isDigit {c d : Char} (hc : c.isDigit = true) (hd : d.isDigit = false) : d ≠ c := by
  rintro rfl
  rw [hc] at hd
  contradiction

/-- No word for a value starts with a digit, nor with a sign and a digit. -/
theorem words_find?_eq_none (negative : Bool) {c : Char} (hc : c.isDigit = true) (rest : Text) :
    (words.find? fun w => w.1.isPrefixOf (NumberStyle.sign negative ++ c :: rest)) = none := by
  have hne {d : Char} (hd : d.isDigit = false) : (d == c) = false := by
    simpa using ne_of_isDigit hc hd
  rw [List.find?_eq_none]
  intro w hw
  simp only [words, List.mem_cons, List.not_mem_nil, or_false] at hw
  cases negative <;> rcases hw with rfl | rfl | rfl | rfl | rfl | rfl <;>
    simp [NumberStyle.sign, List.isPrefixOf, hne]

/-- A numeral is read as a scalar. -/
theorem scalar_of_isNumeral {text rest : Text} {value : Json} (h : IsNumeral text value rest) :
    scalar text = .ok (value, rest) := by
  obtain ⟨negative, unsigned, rfl, hread⟩ := h
  obtain ⟨c, more, rfl, hc⟩ := exists_digit_of_unsignedNumeral? hread
  simp only [scalar, words_find?_eq_none negative hc, numeral?_sign_append negative hc, hread]

/-- A number starts with a sign or a digit. -/
theorem IsNumeral.head {text rest : Text} {value : Json} (h : IsNumeral text value rest) :
    ∃ c more, text = c :: more ∧ (c = '-' ∨ c.isDigit = true) := by
  obtain ⟨negative, unsigned, rfl, hread⟩ := h
  obtain ⟨c, more, rfl, hc⟩ := exists_digit_of_unsignedNumeral? hread
  cases negative with
  | true => exact ⟨'-', c :: more, rfl, Or.inl rfl⟩
  | false => exact ⟨c, more, rfl, Or.inr hc⟩

end Json
end QueryAlgebra
