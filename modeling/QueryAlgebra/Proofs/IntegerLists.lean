import QueryAlgebra.Fingerprint
import QueryAlgebra.Proofs.Scanning

/-!
# Streams of lists of integers

The stream of a list of integers holds the number of its items once and then the
items one after another, with nothing between them.  So it keeps the text that the
numbers give together and loses where one number ends and the next begins: different
lists can have the same stream, and then they have the same fingerprint.

The widths of the numbers are all that is lost.  Lists of negative numbers keep
their borders, since a sign stands where a number starts and nowhere else.

Main results:

- Theorem `utf8_injective`: a text is determined by its bytes.
- Theorem `stream_ints`: the stream of a list of integers is the text that its
  length and its items give together.
- Theorems `flatMap_intText_inj` and `flatMap_intText_inj_of_neg`: when a text of
  numbers determines the numbers.
- Theorem `stream_ints_eq_iff`: exactly when two lists of integers have the same stream.
-/

namespace QueryAlgebra

open Scan

/-! ## Written integers -/

/-- The number of characters of a written integer. -/
def intWidth (n : Int) : Nat :=
  (intText n).length

theorem isDigit_of_mem_decimalDigits {n : Nat} {c : Char} (hc : c ∈ decimalDigits n) :
    c.isDigit = true :=
  Nat.isDigit_of_mem_toDigits (by decide) (by decide) hc

/-- Different numbers have different digits. -/
theorem decimalDigits_injective : Function.Injective decimalDigits := by
  intro m n hdigits
  have hread := congrArg (fun digits => Nat.ofDigitChars 10 digits 0) hdigits
  simpa [decimalDigits] using hread

/-- Digits are told from a text that does not go on with a digit. -/
theorem decimalDigits_append_inj {m n : Nat} {s t : Text} (hs : Halts Char.isDigit s)
    (ht : Halts Char.isDigit t) (htext : decimalDigits m ++ s = decimalDigits n ++ t) :
    m = n ∧ s = t := by
  rcases append_inj_of_halts (fun _ => isDigit_of_mem_decimalDigits)
    (fun _ => isDigit_of_mem_decimalDigits) hs ht htext with ⟨hdigits, hrest⟩
  exact ⟨decimalDigits_injective hdigits, hrest⟩

theorem intText_of_neg {n : Int} (hn : n < 0) : intText n = '-' :: decimalDigits n.natAbs := by
  rw [intText, if_pos hn]

theorem intText_of_nonneg {n : Int} (hn : ¬ n < 0) : intText n = decimalDigits n.natAbs := by
  rw [intText, if_neg hn]

/-- No sign stands at the start of a number that is not negative. -/
theorem cons_ne_intText {n : Int} (hn : ¬ n < 0) (s : Text) : '-' :: s ≠ intText n := by
  intro htext
  rw [intText_of_nonneg hn] at htext
  have hdigit := isDigit_of_mem_decimalDigits (htext ▸ List.mem_cons_self)
  exact absurd hdigit (by decide)

/-- Different integers are written differently. -/
theorem intText_injective : Function.Injective intText := by
  intro m n htext
  by_cases hm : m < 0 <;> by_cases hn : n < 0
  · rw [intText_of_neg hm, intText_of_neg hn] at htext
    have habs := decimalDigits_injective (List.tail_eq_of_cons_eq htext)
    omega
  · rw [intText_of_neg hm] at htext
    exact absurd htext (cons_ne_intText hn _)
  · rw [intText_of_neg hn] at htext
    exact absurd htext.symm (cons_ne_intText hm _)
  · rw [intText_of_nonneg hm, intText_of_nonneg hn] at htext
    have habs := decimalDigits_injective htext
    omega

/-! ## Texts of several numbers -/

/-- A text of numbers and the widths of the numbers determine the numbers. -/
theorem flatMap_intText_inj {xs ys : List Int} (hwidths : xs.map intWidth = ys.map intWidth)
    (htext : xs.flatMap intText = ys.flatMap intText) : xs = ys := by
  induction xs generalizing ys with
  | nil => exact (List.map_eq_nil_iff.mp hwidths.symm).symm
  | cons x xs ih =>
      cases ys with
      | nil => simp at hwidths
      | cons y ys =>
          rw [List.map_cons, List.map_cons, List.cons.injEq] at hwidths
          rw [List.flatMap_cons, List.flatMap_cons] at htext
          rcases List.append_inj htext hwidths.1 with ⟨hfirst, hrest⟩
          rw [intText_injective hfirst, ih hwidths.2 hrest]

/-- A run of digits ends before a text of negative numbers. -/
theorem halts_flatMap_intText {xs : List Int} (hxs : ∀ x ∈ xs, x < 0) :
    Halts Char.isDigit (xs.flatMap intText) := by
  cases xs with
  | nil => exact halts_nil _
  | cons x xs =>
      rw [List.flatMap_cons, intText_of_neg (hxs x List.mem_cons_self), List.cons_append,
        halts_cons]
      decide

/-- A text of negative numbers determines the numbers. -/
theorem flatMap_intText_inj_of_neg {xs ys : List Int} (hxs : ∀ x ∈ xs, x < 0)
    (hys : ∀ y ∈ ys, y < 0) (htext : xs.flatMap intText = ys.flatMap intText) : xs = ys := by
  induction xs generalizing ys with
  | nil =>
      cases ys with
      | nil => rfl
      | cons y ys => simp [intText_of_neg (hys y List.mem_cons_self)] at htext
  | cons x xs ih =>
      rw [List.forall_mem_cons] at hxs
      cases ys with
      | nil => simp [intText_of_neg hxs.1] at htext
      | cons y ys =>
          rw [List.forall_mem_cons] at hys
          rw [List.flatMap_cons, List.flatMap_cons, intText_of_neg hxs.1, intText_of_neg hys.1,
            List.cons_append, List.cons_append, List.cons.injEq] at htext
          -- Behind the sign, the digits of the first number end where the next sign stands.
          rcases decimalDigits_append_inj (halts_flatMap_intText hxs.2)
            (halts_flatMap_intText hys.2) htext.2 with ⟨habs, hrest⟩
          rw [ih hxs.2 hys.2 hrest]
          congr 1
          omega

/-! ## Streams -/

namespace Fingerprint

@[simp] theorem utf8_append (s t : Text) : utf8 (s ++ t) = utf8 s ++ utf8 t :=
  List.flatMap_append

/-- A text is determined by its bytes. -/
theorem utf8_injective : Function.Injective utf8 := by
  intro s t hbytes
  have hencoded : s.utf8Encode = t.utf8Encode := congrArg List.toByteArray hbytes
  have hread := congrArg ByteArray.utf8Decode? hencoded
  simpa [List.utf8Decode?_utf8Encode] using hread

/-- A list of integers. -/
def ints (xs : List Int) : Value :=
  .list (xs.map .int)

/-- The length and the items of a list of integers, written one after another. -/
def written (xs : List Int) : Text :=
  decimalDigits xs.length ++ xs.flatMap intText

/-- The items of a list of integers that is not shortened give the text of the numbers. -/
theorem itemStream_ints {depth : Int} {count : Nat} (hdepth : depth ≤ maxDepth)
    (hcount : count ≤ maxItems) (index : Nat) (xs : List Int) :
    itemStream false depth count index (xs.map .int) = utf8 (xs.flatMap intText) := by
  induction xs generalizing index with
  | nil => simp [itemStream, utf8]
  | cons x xs ih =>
      rw [List.map_cons, itemStream, if_pos (isCounted_of_le hcount index), if_neg (by omega), body,
        ih, List.flatMap_cons, utf8_append]

/-- The stream of a list that is not shortened and whose items are not cut off. -/
theorem stream_ints {depth : Int} {xs : List Int} (hdepth : depth < maxDepth)
    (hlength : xs.length ≤ maxItems) : stream depth (ints xs) = utf8 ('L' :: written xs) := by
  have hitems : itemStream false (depth + 1) xs.length 0 (xs.map .int) =
      utf8 (xs.flatMap intText) :=
    itemStream_ints (by omega) hlength 0 xs
  rw [stream, streamIn_of_le (by omega), ints, body, List.length_map, hitems, head, ← utf8_append,
    List.cons_append, written]

/--
Two lists of integers have the same stream if and only if their lengths and items
give the same text.  They are the same list if and only if, besides, their numbers
have the same widths; for negative numbers the streams are enough.
-/
theorem stream_ints_eq_iff (xs ys : List Int) (hxs : xs.length ≤ maxItems)
    (hys : ys.length ≤ maxItems) :
    (stream 0 (ints xs) = stream 0 (ints ys) ↔ written xs = written ys) ∧
      (xs = ys ↔ stream 0 (ints xs) = stream 0 (ints ys) ∧
        xs.map intWidth = ys.map intWidth) ∧
      ((∀ x ∈ xs, x < 0) → (∀ y ∈ ys, y < 0) →
        stream 0 (ints xs) = stream 0 (ints ys) → xs = ys) := by
  have hiff : stream 0 (ints xs) = stream 0 (ints ys) ↔ written xs = written ys := by
    rw [stream_ints (by decide) hxs, stream_ints (by decide) hys, utf8_injective.eq_iff,
      List.cons.injEq, and_iff_right rfl]
  refine ⟨hiff, ⟨?_, ?_⟩, ?_⟩
  · rintro rfl
    exact ⟨rfl, rfl⟩
  · rintro ⟨hstream, hwidths⟩
    have htext := hiff.mp hstream
    have hlength : xs.length = ys.length := by simpa using congrArg List.length hwidths
    rw [written, written, hlength, List.append_cancel_left_eq] at htext
    exact flatMap_intText_inj hwidths htext
  · intro hxneg hyneg hstream
    exact flatMap_intText_inj_of_neg hxneg hyneg
      (decimalDigits_append_inj (halts_flatMap_intText hxneg) (halts_flatMap_intText hyneg)
        (hiff.mp hstream)).2

/-- Two lists that differ in their last digit only. -/
theorem stream_ints_sameWidths :
    ([1, 23] : List Int).length ≤ maxItems ∧ ([1, 24] : List Int).length ≤ maxItems ∧
      stream 0 (ints [1, 23]) ≠ stream 0 (ints [1, 24]) := by
  refine ⟨by decide, by decide, ?_⟩
  intro hstream
  have heq := (stream_ints_eq_iff [1, 23] [1, 24] (by decide) (by decide)).2.1.mpr
    ⟨hstream, by decide⟩
  exact absurd heq (by decide)

/-- Two short lists of positive numbers whose borders are lost. -/
theorem stream_ints_collision :
    ([1, 23] : List Int) ≠ [12, 3] ∧ ([1, 23] : List Int).length ≤ maxItems ∧
      ([12, 3] : List Int).length ≤ maxItems ∧
      stream 0 (ints [1, 23]) = stream 0 (ints [12, 3]) ∧
      ∃ print, fingerprint (ints [1, 23]) = .ok print ∧ fingerprint (ints [12, 3]) = .ok print := by
  have hstream : stream 0 (ints [1, 23]) = stream 0 (ints [12, 3]) := by decide
  refine ⟨by decide, by decide, by decide, hstream, ofStream (stream 0 (ints [1, 23])), rfl, ?_⟩
  rw [hstream]
  rfl

-- The border between the length and the first number is lost as well.
example : stream 0 (ints [2000000000000]) = stream 0 (ints (List.replicate 12 0)) := by
  decide

end Fingerprint
end QueryAlgebra
