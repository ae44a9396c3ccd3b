import QueryAlgebra.Text.LowerCase
import Mathlib

/-!
# Laws of lower-casing

Lower-casing looks at the neighbours of a character only for the capital sigma, and
only a capital I with a dot becomes two characters.  So a text of characters that are
their own small forms stays as it is, wherever they stand.  Every small form is such a
text: no run of capital letters moves to a letter of another run.  And no run moves to
an ASCII character other than a letter, so line ends, brackets and the like in a small
form stand in the text itself.

Main results:

- Theorem `lower_of_plain`: a text of ASCII characters without capitals is its own
  small form.
- Theorem `lower_lower`: a small form is its own small form.
- Theorem `mem_of_mem_lower`: every ASCII character of the small form that is no letter
  comes from the text.
-/

namespace QueryAlgebra
namespace LowerCase

/-! ## Texts that are their own small form -/

/-- The character is its own small form, whatever stands around it. -/
def IsSmall (c : Char) : Prop :=
  c ≠ 'Σ' ∧ c ≠ 'İ' ∧ small c = c

/-- A small character is its own lower case, wherever it stands. -/
theorem IsSmall.smallAt_eq {c : Char} (hc : IsSmall c) (cased : Bool) (rest : Text) :
    smallAt cased rest c = [c] := by
  rcases hc with ⟨hsigma, hdotted, hsmall⟩
  simp [smallAt, hsigma, hdotted, hsmall]

/-- A text of small characters is its own lower case. -/
theorem lowerFrom_of_small {s : Text} (hs : ∀ c ∈ s, IsSmall c) (cased : Bool) :
    lowerFrom cased s = s := by
  induction s generalizing cased with
  | nil => rfl
  | cons c s ih =>
      rcases List.forall_mem_cons.mp hs with ⟨hc, hs⟩
      rw [lowerFrom, hc.smallAt_eq, ih hs, List.singleton_append]

theorem isUpper_iff {c : Char} : c.isUpper = true ↔ 65 ≤ c.toNat ∧ c.toNat ≤ 90 := by
  simp [Char.isUpper, UInt32.le_iff_toNat_le]

theorem isAlpha_iff {c : Char} :
    c.isAlpha = true ↔ 65 ≤ c.toNat ∧ c.toNat ≤ 90 ∨ 97 ≤ c.toNat ∧ c.toNat ≤ 122 := by
  simp [Char.isAlpha, Char.isUpper, Char.isLower, UInt32.le_iff_toNat_le]

/-- An ASCII character that is no capital letter. -/
def IsPlain (c : Char) : Prop :=
  c.toNat < 0x80 ∧ c.isUpper = false

theorem ne_of_ascii {c : Char} (hascii : c.toNat < 0x80) : c ≠ 'Σ' ∧ c ≠ 'İ' := by
  constructor
  · rintro rfl
    contradiction
  · rintro rfl
    contradiction

theorem IsPlain.isSmall {c : Char} (hc : IsPlain c) : IsSmall c := by
  rcases hc with ⟨hascii, hupper⟩
  rcases ne_of_ascii hascii with ⟨hsigma, hdotted⟩
  refine ⟨hsigma, hdotted, ?_⟩
  rw [small, if_pos hascii, Char.toLower_eq_of_not_isUpper (Bool.eq_false_iff.mp hupper)]

/-- A text of ASCII characters without capitals is its own small form. -/
theorem lower_of_plain {s : Text} (hs : ∀ c ∈ s, IsPlain c) : Text.lower s = s :=
  lowerFrom_of_small (fun c hc => (hs c hc).isSmall) false

/-- In a text of ASCII characters every letter is lowered by itself. -/
theorem lower_of_ascii {s : Text} (hs : ∀ c ∈ s, c.toNat < 0x80) :
    Text.lower s = s.map Char.toLower := by
  suffices hfrom : ∀ cased, lowerFrom cased s = s.map Char.toLower from hfrom false
  induction s with
  | nil => exact fun _ => rfl
  | cons c s ih =>
      intro cased
      rcases List.forall_mem_cons.mp hs with ⟨hascii, hs⟩
      rcases ne_of_ascii hascii with ⟨hsigma, hdotted⟩
      rw [lowerFrom, ih hs]
      simp [smallAt, hsigma, hdotted, small, hascii]

/-! ## Where the runs of capital letters move -/

/-- The number of the character to which a run moves its first letter. -/
def CaseRun.low (r : CaseRun) : Nat :=
  ((r.first : Int) + r.shift).toNat

/-- The number of the character to which a run moves its last letter. -/
def CaseRun.high (r : CaseRun) : Nat :=
  ((r.last : Int) + r.shift).toNat

/--
No letter of the first run moves to one of the second: they lie apart, or they
alternate.
-/
def CaseRun.avoids (r s : CaseRun) : Bool :=
  Nat.blt r.high s.first || Nat.blt s.last r.low ||
    ((r.stride == 2 || r.first == r.last) && s.stride == 2 && (r.low + s.first) % 2 == 1)

/--
The runs move to characters that there are, to no ASCII character but a small letter,
and not to the capital I with a dot.
-/
theorem caseRuns_range : ∀ r ∈ caseRuns,
    -r.shift ≤ r.first ∧ (97 ≤ r.low ∧ r.high ≤ 122 ∨ 0x80 ≤ r.low) ∧
      (r.high < 0x130 ∨ 0x130 < r.low) ∧
      (r.high < 0xD800 ∨ 0xDFFF < r.low ∧ r.high < 0x110000) := by
  decide +kernel

/-- No run of capitals maps into another one, so lowering twice changes nothing more. -/
theorem caseRuns_avoid : (caseRuns.all fun r => caseRuns.all r.avoids) = true := by
  decide +kernel

/-- A run covers every stride-th code point from its first to its last. -/
theorem CaseRun.covers_iff {r : CaseRun} {n : Nat} :
    r.covers n = true ↔ r.first ≤ n ∧ n ≤ r.last ∧ (n - r.first) % r.stride = 0 := by
  simp [CaseRun.covers, and_assoc]

/-- The run that is found covers the code point. -/
theorem covers_of_find {n : Nat} {r : CaseRun}
    (hfind : caseRuns.find? (fun r => r.covers n) = some r) :
    r ∈ caseRuns ∧ r.covers n = true := by
  refine ⟨List.mem_of_find?_eq_some hfind, ?_⟩
  have hfound := List.find?_some hfind
  exact hfound

/-- The character to which a run moves one of its letters. -/
theorem toNat_small_of_run {c : Char} {r : CaseRun} (hascii : ¬ c.toNat < 0x80)
    (hfind : caseRuns.find? (fun r => r.covers c.toNat) = some r) :
    (small c).toNat + r.first = r.low + c.toNat ∧ (small c).toNat ≤ r.high := by
  rcases covers_of_find hfind with ⟨hr, hfound⟩
  have hcovers := CaseRun.covers_iff.mp hfound
  have hrange := caseRuns_range r hr
  have hsmall : small c = Char.ofNat ((c.toNat : Int) + r.shift).toNat := by
    simp [small, hascii, hfind]
  unfold CaseRun.low CaseRun.high at *
  have hvalid : Nat.isValidChar ((c.toNat : Int) + r.shift).toNat := by
    unfold Nat.isValidChar
    omega
  rw [hsmall, Char.toNat_ofNat, if_pos hvalid]
  omega

/-- What one run moves its letters to belongs to no run. -/
theorem not_covers_of_run {n m : Nat} {r s : CaseRun} (hr : r ∈ caseRuns) (hs : s ∈ caseRuns)
    (hn : r.covers n = true) (hm : m + r.first = r.low + n) (hhigh : m ≤ r.high) :
    s.covers m = false := by
  have havoid := List.all_eq_true.mp (List.all_eq_true.mp caseRuns_avoid r hr) s hs
  rw [CaseRun.covers_iff] at hn
  rw [Bool.eq_false_iff, Ne, CaseRun.covers_iff]
  simp only [CaseRun.avoids, Bool.or_eq_true, Bool.and_eq_true, Nat.blt_eq, beq_iff_eq] at havoid
  rintro ⟨hfirst, hlast, hstride⟩
  rcases havoid with (hbelow | habove) | ⟨⟨hsteps, hpairs⟩, hodd⟩
  · omega
  · omega
  · rw [hpairs] at hstride
    rcases hsteps with htwo | hsingle
    · rw [htwo] at hn
      omega
    · omega

/-! ## Small forms of small forms -/

/-- Lowering an ASCII character makes it plain. -/
theorem isPlain_toLower {c : Char} (hascii : c.toNat < 0x80) : IsPlain c.toLower := by
  refine ⟨?_, Char.isUpper_toLower_eq_false c⟩
  by_cases hupper : c.isUpper = true
  · have hrange := isUpper_iff.mp hupper
    rw [Char.toLower_eq_of_isUpper hupper, Char.toNat_ofNat, if_pos (Or.inl (by omega))]
    omega
  · rwa [Char.toLower_eq_of_not_isUpper hupper]

/-- A character outside all runs, other than the capital I with a dot, is its own small form. -/
theorem isSmall_of_not_covers {c : Char} (hascii : ¬ c.toNat < 0x80) (hdotted : c ≠ 'İ')
    (hc : ∀ r ∈ caseRuns, r.covers c.toNat = false) : IsSmall c := by
  have hfind : caseRuns.find? (fun r => r.covers c.toNat) = none := by
    rw [List.find?_eq_none]
    intro r hr
    simp [hc r hr]
  refine ⟨?_, hdotted, ?_⟩
  · rintro rfl
    exact absurd hfind (by decide +kernel)
  · simp [small, hascii, hfind]

/-- The small form of a character is its own small form. -/
theorem isSmall_small {c : Char} (hsigma : c ≠ 'Σ') (hdotted : c ≠ 'İ') : IsSmall (small c) := by
  by_cases hascii : c.toNat < 0x80
  · have hlower : small c = c.toLower := by rw [small, if_pos hascii]
    rw [hlower]
    exact (isPlain_toLower hascii).isSmall
  · cases hfind : caseRuns.find? (fun r => r.covers c.toNat) with
    | none =>
        have hsame : small c = c := by simp [small, hascii, hfind]
        rw [hsame]
        exact ⟨hsigma, hdotted, hsame⟩
    | some r =>
        rcases covers_of_find hfind with ⟨hr, hfound⟩
        have hcovers := CaseRun.covers_iff.mp hfound
        have hrange := caseRuns_range r hr
        rcases toNat_small_of_run hascii hfind with ⟨hmoved, hhigh⟩
        -- What a run maps to lies in no other run, so it is not lowered again.
        by_cases hplain : (small c).toNat < 0x80
        · apply IsPlain.isSmall
          refine ⟨hplain, ?_⟩
          rw [Bool.eq_false_iff, Ne, isUpper_iff]
          omega
        · have hnot : small c ≠ 'İ' := by
            intro heq
            rw [heq, show 'İ'.toNat = 0x130 from rfl] at hmoved hhigh
            omega
          apply isSmall_of_not_covers hplain hnot
          intro s hs
          exact not_covers_of_run hr hs hfound hmoved hhigh

/-- The lower case of a character is small. -/
theorem isSmall_of_mem_smallAt {cased : Bool} {rest : Text} {c d : Char}
    (hd : d ∈ smallAt cased rest c) : IsSmall d := by
  unfold smallAt at hd
  split at hd
  · split at hd
    · rw [List.mem_singleton.mp hd]
      exact ⟨by decide, by decide, by decide +kernel⟩
    · rw [List.mem_singleton.mp hd]
      exact ⟨by decide, by decide, by decide +kernel⟩
  · split at hd
    · rcases List.mem_cons.mp hd with rfl | hd
      · exact ⟨by decide, by decide, by decide +kernel⟩
      · rw [List.mem_singleton.mp hd]
        exact ⟨by decide, by decide, by decide +kernel⟩
    · rename_i hsigma hdotted
      rw [List.mem_singleton.mp hd]
      exact isSmall_small hsigma hdotted

/-- The lower case of a text is small. -/
theorem isSmall_of_mem_lowerFrom {cased : Bool} {s : Text} {d : Char}
    (hd : d ∈ lowerFrom cased s) : IsSmall d := by
  induction s generalizing cased with
  | nil => simp [lowerFrom] at hd
  | cons c s ih =>
      rw [lowerFrom, List.mem_append] at hd
      rcases hd with hhere | hlater
      · exact isSmall_of_mem_smallAt hhere
      · exact ih hlater

/-- A small form is its own small form. -/
theorem lower_lower (s : Text) : Text.lower (Text.lower s) = Text.lower s :=
  lowerFrom_of_small (fun _ => isSmall_of_mem_lowerFrom) false

/-! ## ASCII characters other than letters -/

/-- An ASCII character that is no letter. -/
def IsMark (d : Char) : Prop :=
  d.toNat < 0x80 ∧ d.isAlpha = false

theorem IsMark.not_letter {d : Char} (hd : IsMark d) : ¬ (97 ≤ d.toNat ∧ d.toNat ≤ 122) := by
  have hletter := hd.2
  rw [Bool.eq_false_iff, Ne, isAlpha_iff] at hletter
  omega

/-- A character becomes an ASCII character other than a letter only if it is that character. -/
theorem eq_of_small_mark {c d : Char} (hd : IsMark d) (hc : small c = d) : c = d := by
  by_cases hascii : c.toNat < 0x80
  · rw [small, if_pos hascii] at hc
    have hletter : c.isAlpha = false := by
      rw [← Char.isAlpha_toLower_eq_isAlpha, hc]
      exact hd.2
    have hupper : ¬ c.isUpper = true := by
      intro hupper
      simp [Char.isAlpha, hupper] at hletter
    rwa [Char.toLower_eq_of_not_isUpper hupper] at hc
  · cases hfind : caseRuns.find? (fun r => r.covers c.toNat) with
    | none => simpa [small, hascii, hfind] using hc
    | some r =>
        rcases covers_of_find hfind with ⟨hr, hfound⟩
        have hcovers := CaseRun.covers_iff.mp hfound
        have hrange := caseRuns_range r hr
        have hmoved := toNat_small_of_run hascii hfind
        have hletter := hd.not_letter
        have hbound := hd.1
        rw [hc] at hmoved
        omega

/-- A mark is the lower case of itself only. -/
theorem eq_of_mark_mem_smallAt {cased : Bool} {rest : Text} {c d : Char} (hd : IsMark d)
    (hmem : d ∈ smallAt cased rest c) : c = d := by
  unfold smallAt at hmem
  split at hmem
  · split at hmem
    · rw [List.mem_singleton.mp hmem] at hd
      exact absurd hd.1 (by decide)
    · rw [List.mem_singleton.mp hmem] at hd
      exact absurd hd.1 (by decide)
  · split at hmem
    · rcases List.mem_cons.mp hmem with rfl | hmem
      · exact absurd hd.2 (by decide)
      · rw [List.mem_singleton.mp hmem] at hd
        exact absurd hd.1 (by decide)
    · exact eq_of_small_mark hd (List.mem_singleton.mp hmem).symm

/-- A mark in the lower case of a text was in the text. -/
theorem mem_of_mem_lowerFrom {cased : Bool} {s : Text} {d : Char} (hd : IsMark d)
    (hmem : d ∈ lowerFrom cased s) : d ∈ s := by
  induction s generalizing cased with
  | nil => exact hmem
  | cons c s ih =>
      rw [lowerFrom, List.mem_append] at hmem
      rcases hmem with hhere | hlater
      · rw [eq_of_mark_mem_smallAt hd hhere]
        exact List.mem_cons_self
      · exact List.mem_cons_of_mem c (ih hlater)

/-- Every ASCII character of the small form that is no letter comes from the text. -/
theorem mem_of_mem_lower {s : Text} {d : Char} (hd : IsMark d) (hmem : d ∈ Text.lower s) :
    d ∈ s :=
  mem_of_mem_lowerFrom hd hmem

/-- Every line end of the small form comes from one of the text. -/
theorem newline_mem_of_mem_lower {s : Text} (hmem : '\n' ∈ Text.lower s) : '\n' ∈ s :=
  mem_of_mem_lower ⟨by decide, by decide⟩ hmem

end LowerCase
end QueryAlgebra
