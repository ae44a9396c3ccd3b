import QueryAlgebra.Proofs.Validation

/-!
# Texts between separators

Texts that are joined with a separator come apart again at the separator, as long as
none of them contains it.  What follows the last separator of a text depends on nothing
before that separator, and it grows with what is added at the end.

Main results:

- Theorem `pieces_join`: the pieces of joined texts are the texts, with the gap behind
  the separator before all but the first.
- Theorem `pieces_append_sep`: a separator cuts a text into the pieces on its two sides.
- Theorem `afterLast_append`: what follows the last separator grows with the text.
-/

namespace QueryAlgebra
namespace Text

variable {sep : Char}

@[simp] theorem join_cons_cons (mark first next : Text) (more : List Text) :
    join mark (first :: next :: more) = first ++ (mark ++ join mark (next :: more)) := by
  rw [join, List.append_assoc]
  exact List.cons_ne_nil next more

/-- Two lists of texts are joined with the mark between them. -/
theorem join_append {mark : Text} {texts others : List Text} (htexts : texts ≠ [])
    (hothers : others ≠ []) :
    join mark (texts ++ others) = join mark texts ++ (mark ++ join mark others) := by
  induction texts with
  | nil => contradiction
  | cons first more ih =>
      cases more with
      | nil =>
          rcases List.exists_cons_of_ne_nil hothers with ⟨next, rest, rfl⟩
          exact join_cons_cons _ _ _ _
      | cons next more =>
          have hmore := ih (List.cons_ne_nil next more)
          rw [List.cons_append] at hmore
          rw [List.cons_append, List.cons_append, join_cons_cons, hmore, join_cons_cons]
          simp only [List.append_assoc]

/-- Every character of joined texts comes from the mark between them or from one of them. -/
theorem mem_join {mark : Text} {texts : List Text} {c : Char} (hc : c ∈ join mark texts) :
    c ∈ mark ∨ ∃ text ∈ texts, c ∈ text := by
  induction texts with
  | nil => exact absurd hc List.not_mem_nil
  | cons first more ih =>
      cases more with
      | nil => exact Or.inr ⟨first, List.mem_cons_self, hc⟩
      | cons next more =>
          rw [join_cons_cons, List.mem_append, List.mem_append] at hc
          rcases hc with hc | hc | hc
          · exact Or.inr ⟨first, List.mem_cons_self, hc⟩
          · exact Or.inl hc
          · rcases ih hc with hmark | ⟨text, htext, hmem⟩
            · exact Or.inl hmark
            · exact Or.inr ⟨text, List.mem_cons_of_mem first htext, hmem⟩

/-- Joined texts are changed character by character, and so is the mark between them. -/
theorem map_join (f : Char → Char) (mark : Text) (texts : List Text) :
    (join mark texts).map f = join (mark.map f) (texts.map fun text => text.map f) := by
  induction texts with
  | nil => rfl
  | cons first more ih =>
      cases more with
      | nil => rfl
      | cons next more =>
          rw [join_cons_cons, List.map_append, List.map_append, ih]
          exact (join_cons_cons _ _ _ _).symm

/-- Joined texts come apart again at the separator; the gap behind it stays with what follows. -/
theorem pieces_join {gap first : Text} {more : List Text} (hgap : sep ∉ gap)
    (htexts : ∀ text ∈ first :: more, sep ∉ text) :
    pieces sep (join (sep :: gap) (first :: more)) = first :: more.map (gap ++ ·) := by
  induction more generalizing first with
  | nil => exact pieces_of_not_mem (htexts first List.mem_cons_self)
  | cons next more ih =>
      have hrest : ∀ text ∈ next :: more, sep ∉ text := by
        intro text htext
        exact htexts text (List.mem_cons_of_mem first htext)
      have hnext := pieces_append hgap (ih hrest)
      have hsep := pieces_sep sep (gap ++ join (sep :: gap) (next :: more))
      rw [hnext] at hsep
      have hfirst := pieces_append (htexts first List.mem_cons_self) hsep
      rwa [List.append_nil, ← List.cons_append, ← join_cons_cons] at hfirst

/-- A separator cuts a text into the pieces on its two sides. -/
theorem pieces_append_sep (u v : Text) :
    pieces sep (u ++ sep :: v) = pieces sep u ++ pieces sep v := by
  induction u with
  | nil => exact pieces_sep sep v
  | cons c u ih =>
      by_cases hc : c = sep
      · rw [hc, List.cons_append, pieces_sep, pieces_sep, ih, List.cons_append]
      · have hsingle : sep ∉ [c] := by simpa using Ne.symm hc
        rcases List.exists_cons_of_ne_nil (pieces_ne_nil sep u) with ⟨first, more, hpieces⟩
        rw [hpieces, List.cons_append] at ih
        have hwhole := pieces_append hsingle ih
        have hstart := pieces_append hsingle hpieces
        rw [List.singleton_append, List.singleton_append] at hwhole hstart
        rw [List.cons_append, hwhole, hstart, List.cons_append]

/-- No piece contains the separator. -/
theorem sep_not_mem_piece {s piece : Text} (hpiece : piece ∈ pieces sep s) : sep ∉ piece := by
  induction s generalizing piece with
  | nil =>
      rw [pieces, List.mem_singleton] at hpiece
      rw [hpiece]
      exact List.not_mem_nil
  | cons c s ih =>
      rcases List.exists_cons_of_ne_nil (pieces_ne_nil sep s) with ⟨first, more, hpieces⟩
      rw [hpieces] at ih
      by_cases hc : c = sep
      · rw [hc, pieces_sep, hpieces] at hpiece
        rcases List.mem_cons.mp hpiece with rfl | hpiece
        · exact List.not_mem_nil
        · exact ih hpiece
      · have hsingle : sep ∉ [c] := by simpa using Ne.symm hc
        have hstart := pieces_append hsingle hpieces
        rw [List.singleton_append] at hstart
        rw [hstart] at hpiece
        rcases List.mem_cons.mp hpiece with rfl | hpiece
        · rw [List.mem_append, not_or]
          exact ⟨hsingle, ih List.mem_cons_self⟩
        · exact ih (List.mem_cons_of_mem first hpiece)

/-! ## What follows the last separator -/

theorem afterLast_of_not_mem {s : Text} (hs : sep ∉ s) : afterLast sep s = s := by
  rw [afterLast, pieces_of_not_mem hs]
  rfl

/-- What stands before a separator does not count. -/
theorem afterLast_append_sep (u v : Text) :
    afterLast sep (u ++ sep :: v) = afterLast sep v := by
  rw [afterLast, afterLast, pieces_append_sep,
    List.getLast?_append_of_ne_nil _ (pieces_ne_nil sep v)]

/-- A character before a text with a separator does not count. -/
theorem afterLast_cons_of_mem {s : Text} (hs : sep ∈ s) (c : Char) :
    afterLast sep (c :: s) = afterLast sep s := by
  rcases List.append_of_mem hs with ⟨before, after, rfl⟩
  rw [← List.cons_append, afterLast_append_sep, afterLast_append_sep]

/-- What is added without a separator belongs to what follows the last one. -/
theorem afterLast_append {v : Text} (u : Text) (hv : sep ∉ v) :
    afterLast sep (u ++ v) = afterLast sep u ++ v := by
  induction u with
  | nil =>
      rw [List.nil_append, afterLast_of_not_mem hv]
      rfl
  | cons c u ih =>
      by_cases hmem : sep ∈ u
      · rw [List.cons_append, afterLast_cons_of_mem (List.mem_append_left v hmem),
          afterLast_cons_of_mem hmem, ih]
      · have huv : sep ∉ u ++ v := by
          rw [List.mem_append, not_or]
          exact ⟨hmem, hv⟩
        by_cases hc : c = sep
        · have hwhole : afterLast sep (sep :: (u ++ v)) = afterLast sep (u ++ v) :=
            afterLast_append_sep [] (u ++ v)
          have hstart : afterLast sep (sep :: u) = afterLast sep u := afterLast_append_sep [] u
          rw [hc, List.cons_append, hwhole, hstart, ih]
        · have hcu : sep ∉ c :: u := by simp [hmem, Ne.symm hc]
          have hcuv : sep ∉ (c :: u) ++ v := by simp [huv, Ne.symm hc]
          rw [afterLast_of_not_mem hcuv, afterLast_of_not_mem hcu]

end Text
end QueryAlgebra
