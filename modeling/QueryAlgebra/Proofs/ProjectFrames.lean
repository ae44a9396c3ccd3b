import QueryAlgebra.Audit.Frame
import QueryAlgebra.Proofs.Pieces

/-!
# Files of the project

Whether a file belongs to the project is decided on the text of its normal path: by how
the text starts and ends, and by the marks that occur in it.  Here the same is said of
the components of the path.  A mark with slashes around it occurs in a normal path just
if it is a component other than the last one, and a mark with a slash behind it just if
such a component ends with it.

Main results:

- Theorem `Path.isComponent_of_mem`: the components of a path are neither empty nor the
  current nor the parent directory.
- Theorem `Path.enclosed_infix_iff`: which names occur in a path between two slashes.
- Theorem `Path.ended_infix_iff`: which names occur in a path before a slash.
- Theorem `Frame.isProject_iff`: which files belong to the project.
-/

namespace QueryAlgebra

/-- A text occurs in another just if it is one of its stretches. -/
theorem Text.occursIn_iff {part s : Text} : Text.occursIn part s = true ↔ part <:+: s := by
  induction s with
  | nil => simp [Text.occursIn]
  | cons c s ih => simp [Text.occursIn, List.infix_cons_iff, ih]

namespace Audit
namespace Path

/-! ## Components -/

/-- The name of a file or directory: not empty, neither `.` nor `..`, and without a slash. -/
structure IsComponent (c : Text) : Prop where
  ne_nil : c ≠ []
  ne_current : c ≠ ['.']
  ne_parent : c ≠ ['.', '.']
  noSlash : '/' ∉ c

/-- Every further component leaves names only. -/
theorem isComponent_of_mem_push {done : List Text} {component c : Text}
    (hdone : ∀ d ∈ done, IsComponent d) (hcomponent : '/' ∉ component)
    (hc : c ∈ push done component) : IsComponent c := by
  unfold push at hc
  split at hc
  · exact hdone c hc
  · rename_i hnot
    split at hc
    · exact hdone c (List.mem_of_mem_tail hc)
    · rename_i hparent
      rcases List.mem_cons.mp hc with rfl | hc
      · rw [not_or] at hnot
        exact ⟨hnot.1, hnot.2, hparent, hcomponent⟩
      · exact hdone c hc

theorem isComponent_of_mem_foldl {pieces done : List Text} {c : Text}
    (hpieces : ∀ piece ∈ pieces, '/' ∉ piece) (hdone : ∀ d ∈ done, IsComponent d)
    (hc : c ∈ pieces.foldl push done) : IsComponent c := by
  induction pieces generalizing done with
  | nil => exact hdone c hc
  | cons piece pieces ih =>
      rcases List.forall_mem_cons.mp hpieces with ⟨hpiece, hpieces⟩
      apply ih hpieces _ hc
      intro d hd
      exact isComponent_of_mem_push hdone hpiece hd

/-- The components of a path are names. -/
theorem isComponent_of_mem {path c : Text} (hc : c ∈ components path) : IsComponent c := by
  rw [components, List.mem_reverse] at hc
  apply isComponent_of_mem_foldl _ _ hc
  · intro piece hpiece
    exact Text.sep_not_mem_piece hpiece
  · intro d hd
    exact absurd hd List.not_mem_nil

/-! ## Normal paths -/

variable {path : Text}

/-- Before the first slash of a normal path stands nothing, and behind it the components. -/
theorem normal_eq_join (hne : components path ≠ []) :
    normal path = Text.join ['/'] ([] :: components path) := by
  rcases List.exists_cons_of_ne_nil hne with ⟨c, more, hcomponents⟩
  rw [normal, hcomponents, Text.join_cons_cons]
  rfl

theorem pieces_normal (hne : components path ≠ []) :
    Text.pieces '/' (normal path) = [] :: components path := by
  have hpieces : Text.pieces '/' (Text.join ['/'] ([] :: components path)) =
      [] :: (components path).map ([] ++ ·) := by
    apply Text.pieces_join List.not_mem_nil
    intro text htext
    rcases List.mem_cons.mp htext with rfl | htext
    · exact List.not_mem_nil
    · exact (isComponent_of_mem htext).noSlash
  rw [normal_eq_join hne, hpieces]
  simp

/-- The name of a normal path is its last component. -/
theorem name_normal (hne : components path ≠ []) :
    name (normal path) = (components path).getLast hne := by
  rw [name, Text.afterLast, pieces_normal hne, List.getLast?_cons,
    List.getLast?_eq_some_getLast hne]
  rfl

/-- What is in a list without its end stands before something else. -/
theorem exists_of_mem_dropLast {c : Text} {all : List Text} (hc : c ∈ all.dropLast) :
    ∃ front back, all = front ++ c :: back ∧ back ≠ [] := by
  have hne : all ≠ [] := by
    rintro rfl
    exact absurd hc List.not_mem_nil
  rcases List.append_of_mem hc with ⟨front, back, hcut⟩
  refine ⟨front, back ++ [all.getLast hne], ?_, by simp⟩
  rw [← List.cons_append, ← List.append_assoc, ← hcut, List.dropLast_append_getLast hne]

/-- A component other than the last one stands between two slashes. -/
theorem exists_normal_of_mem_dropLast {c : Text} (hc : c ∈ (components path).dropLast) :
    ∃ before after, normal path = before ++ '/' :: (c ++ '/' :: after) := by
  rcases exists_of_mem_dropLast hc with ⟨front, back, hcut, hback⟩
  have hne : components path ≠ [] := by simp [hcut]
  refine ⟨Text.join ['/'] ([] :: front), Text.join ['/'] back, ?_⟩
  rw [normal_eq_join hne, hcut, ← List.cons_append,
    Text.join_append (List.cons_ne_nil _ _) (List.cons_ne_nil _ _),
    ← List.singleton_append (x := c), Text.join_append (List.cons_ne_nil _ _) hback]
  rfl

/-- What stands behind other texts of a list, and not at its end, is in the list without both. -/
theorem mem_dropLast_of_eq {first c : Text} {all front back : List Text} (hfront : front ≠ [])
    (hback : back ≠ []) (heq : first :: all = front ++ c :: back) : c ∈ all.dropLast := by
  rcases List.exists_cons_of_ne_nil hfront with ⟨d, more, rfl⟩
  rw [List.cons_append, List.cons.injEq] at heq
  rw [heq.2, List.dropLast_append_of_ne_nil (List.cons_ne_nil c back),
    List.dropLast_cons_of_ne_nil hback]
  simp

/-- A name occurs between two slashes just if it is a component other than the last one. -/
theorem enclosed_infix_iff {c : Text} (hne : components path ≠ []) (hc : '/' ∉ c) :
    '/' :: (c ++ ['/']) <:+: normal path ↔ c ∈ (components path).dropLast := by
  constructor
  · rintro ⟨before, after, hnormal⟩
    have hcut : normal path = before ++ '/' :: (c ++ '/' :: after) := by
      rw [← hnormal]
      simp
    have hpieces := pieces_normal hne
    rw [hcut, Text.pieces_append_sep, Text.pieces_append_sep, Text.pieces_of_not_mem hc] at hpieces
    exact mem_dropLast_of_eq (Text.pieces_ne_nil '/' before) (Text.pieces_ne_nil '/' after)
      hpieces.symm
  · intro hmem
    rcases exists_normal_of_mem_dropLast hmem with ⟨before, after, hnormal⟩
    exact ⟨before, after, by rw [hnormal]; simp⟩

/-- A name occurs before a slash just if a component other than the last one ends with it. -/
theorem ended_infix_iff {u : Text} (hne : components path ≠ []) (hu : '/' ∉ u) (hunil : u ≠ []) :
    u ++ ['/'] <:+: normal path ↔ ∃ c ∈ (components path).dropLast, u <:+ c := by
  constructor
  · rintro ⟨before, after, hnormal⟩
    have hcut : normal path = (before ++ u) ++ '/' :: after := by
      rw [← hnormal]
      simp
    have hpieces := pieces_normal hne
    have hfront := Text.pieces_ne_nil '/' (before ++ u)
    -- The last piece before the slash ends with the name, so it is not the empty one at the start.
    have hlast : (Text.pieces '/' (before ++ u)).getLast hfront =
        Text.afterLast '/' before ++ u := by
      rw [← Text.afterLast_append before hu, Text.afterLast,
        List.getLast?_eq_some_getLast hfront]
      rfl
    rw [hcut, Text.pieces_append_sep, ← List.dropLast_append_getLast hfront, hlast,
      List.append_assoc, List.singleton_append] at hpieces
    refine ⟨Text.afterLast '/' before ++ u, ?_, List.suffix_append _ _⟩
    apply mem_dropLast_of_eq _ (Text.pieces_ne_nil '/' after) hpieces.symm
    intro hnil
    rw [hnil, List.nil_append, List.cons.injEq] at hpieces
    exact hunil (List.append_eq_nil_iff.mp hpieces.1).2
  · rintro ⟨c, hmem, start, rfl⟩
    rcases exists_normal_of_mem_dropLast hmem with ⟨before, after, hnormal⟩
    exact ⟨before ++ '/' :: start, after, by rw [hnormal]; simp⟩

end Path

namespace Frame

open QueryAlgebra.Audit.Path

/-! ## Files of the project -/

/-- The name of the directory of the project. -/
def rootName : Text :=
  ['r', 'e', 'p', 'o']

/-- The end of the names of directories that describe installed packages. -/
def packageEnding : Text :=
  ".egg-info".toList

theorem root_eq : root = '/' :: (rootName ++ ['/']) := by
  decide

variable {path : Text}

theorem normal_of_root {rest : List Text} (hrest : rest ≠ [])
    (hcomponents : components path = rootName :: rest) :
    normal path = root ++ Text.join ['/'] rest := by
  have hjoin : Text.join ['/'] (rootName :: rest) = rootName ++ (['/'] ++ Text.join ['/'] rest) :=
    Text.join_append (List.cons_ne_nil rootName []) hrest
  rw [normal, hcomponents, hjoin, root_eq]
  simp

/-- A normal path starts with the directory of the project just if its first component does. -/
theorem root_prefix_iff :
    root <+: normal path ↔ ∃ rest, rest ≠ [] ∧ components path = rootName :: rest := by
  constructor
  · rintro ⟨after, hnormal⟩
    have hcut : normal path = ([] ++ '/' :: rootName) ++ '/' :: after := by
      rw [← hnormal, root_eq]
      simp
    have hne : components path ≠ [] := by
      intro hnil
      rw [normal, hnil] at hcut
      simp [Text.join, rootName] at hcut
    have hpieces := pieces_normal hne
    rw [hcut, Text.pieces_append_sep, Text.pieces_append_sep,
      Text.pieces_of_not_mem (by decide : '/' ∉ rootName)] at hpieces
    refine ⟨Text.pieces '/' after, Text.pieces_ne_nil '/' after, ?_⟩
    exact (List.cons.inj hpieces).2.symm
  · rintro ⟨rest, hrest, hcomponents⟩
    exact ⟨Text.join ['/'] rest, (normal_of_root hrest hcomponents).symm⟩

/-- Below the directory of the project, only the file of the benches has its path. -/
theorem normal_eq_benchFile_iff {rest : List Text} (hrest : rest ≠ [])
    (hcomponents : components path = rootName :: rest) :
    normal path = root ++ benchFile ↔ rest = [benchFile] := by
  rw [normal_of_root hrest hcomponents, List.append_cancel_left_eq]
  constructor
  · intro hjoin
    rcases List.exists_cons_of_ne_nil hrest with ⟨first, more, rfl⟩
    have hpieces : Text.pieces '/' (Text.join ['/'] (first :: more)) =
        first :: more.map ([] ++ ·) := by
      apply Text.pieces_join List.not_mem_nil
      intro text htext
      have hmem : text ∈ components path := by
        rw [hcomponents]
        exact List.mem_cons_of_mem rootName htext
      exact (isComponent_of_mem hmem).noSlash
    have hslash : '/' ∉ benchFile := by decide
    rw [hjoin, Text.pieces_of_not_mem hslash] at hpieces
    simpa using hpieces.symm
  · rintro rfl
    rfl

/-- The marks of foreign directories are their names between slashes, or an end of a name. -/
theorem foreignMarks_any_iff (hne : components path ≠ []) :
    (foreignMarks.any fun mark => Text.occursIn mark (normal path)) = true ↔
      ∃ c ∈ (components path).dropLast, c ∈ foreignDirectories ∨ packageEnding <:+ c := by
  have hmarks : foreignMarks = (packageEnding ++ ['/']) ::
      foreignDirectories.map fun directory => '/' :: (directory ++ ['/']) := by
    decide +kernel
  have hslash : ∀ directory ∈ foreignDirectories, '/' ∉ directory := by decide +kernel
  have hending : '/' ∉ packageEnding ∧ packageEnding ≠ [] := by decide +kernel
  rw [hmarks, List.any_cons, Bool.or_eq_true, Text.occursIn_iff,
    ended_infix_iff hne hending.1 hending.2, List.any_eq_true]
  constructor
  · rintro (⟨c, hmem, hends⟩ | ⟨mark, hmark, hoccurs⟩)
    · exact ⟨c, hmem, Or.inr hends⟩
    · rcases List.mem_map.mp hmark with ⟨directory, hdirectory, rfl⟩
      rw [Text.occursIn_iff, enclosed_infix_iff hne (hslash directory hdirectory)] at hoccurs
      exact ⟨directory, hoccurs, Or.inl hdirectory⟩
  · rintro ⟨c, hmem, hdirectory | hends⟩
    · right
      refine ⟨'/' :: (c ++ ['/']), List.mem_map_of_mem hdirectory, ?_⟩
      rw [Text.occursIn_iff, enclosed_infix_iff hne (hslash c hdirectory)]
      exact hmem
    · exact Or.inl ⟨c, hmem, hends⟩

/-- A path from the root stays as it is. -/
@[simp]
theorem fromRoot_of_head (hpath : path.head? = some '/') : fromRoot path = path :=
  if_pos hpath

/-- A path from the root is of a file. -/
@[simp]
theorem isFileless_of_head (hpath : path.head? = some '/') : isFileless path = false := by
  rw [isFileless, hpath]
  decide

/--
Which files belong to the project.  For a path from the root, its components say it: the
first one is the directory of the project, more follow, these are not just the file of
the benches, the last one does not start as the audit's own files do, and none before the
last is a foreign directory or describes an installed package.
-/
theorem isProject_iff (path : Text) (hpath : path.head? = some '/') :
    isProject path = true ↔
      ∃ rest last, components path = rootName :: rest ∧ rest.getLast? = some last ∧
        rest ≠ [benchFile] ∧ ¬ auditMark <+: last ∧
        ∀ c ∈ (components path).dropLast, c ∉ foreignDirectories ∧ ¬ packageEnding <:+ c := by
  have hforeign : ∀ hne : components path ≠ [],
      (∀ c ∈ (components path).dropLast, c ∉ foreignDirectories ∧ ¬ packageEnding <:+ c) ↔
        (foreignMarks.any fun mark => Text.occursIn mark (normal path)) = false := by
    intro hne
    rw [Bool.eq_false_iff, Ne, foreignMarks_any_iff hne]
    simp only [not_exists, not_and, not_or]
  -- The checks on the path are one by one those on its components.
  unfold isProject
  simp only [isFileless_of_head hpath, fromRoot_of_head hpath, Bool.not_false, Bool.true_and,
    Bool.and_eq_true, List.isPrefixOf_iff_prefix, root_prefix_iff, bne_iff_ne, Bool.not_eq_true']
  constructor
  · rintro ⟨⟨⟨⟨rest, hrest, hcomponents⟩, hbench⟩, haudit⟩, hmarks⟩
    have hne : components path ≠ [] := by simp [hcomponents]
    refine ⟨rest, rest.getLast hrest, hcomponents, List.getLast?_eq_some_getLast hrest, ?_, ?_,
      (hforeign hne).mpr hmarks⟩
    · rwa [Ne, ← normal_eq_benchFile_iff hrest hcomponents]
    · rw [name_normal hne] at haudit
      simpa [hcomponents, List.getLast_cons hrest, Bool.eq_false_iff] using haudit
  · rintro ⟨rest, last, hcomponents, hlast, hbench, haudit, hclean⟩
    have hrest : rest ≠ [] := by
      rintro rfl
      simp at hlast
    have hne : components path ≠ [] := by simp [hcomponents]
    have hname : name (normal path) = last := by
      rw [List.getLast?_eq_some_getLast hrest, Option.some.injEq] at hlast
      rw [name_normal hne, ← hlast]
      simp only [hcomponents, List.getLast_cons hrest]
    refine ⟨⟨⟨⟨rest, hrest, hcomponents⟩, ?_⟩, ?_⟩, (hforeign hne).mp hclean⟩
    · rwa [Ne, normal_eq_benchFile_iff hrest hcomponents]
    · rw [hname]
      simpa [Bool.eq_false_iff] using haudit

/--
A file with the name of a foreign directory belongs to the project, however its path is
written, but not a file in such a directory.
-/
theorem isProject_dist :
    isProject "/repo//pkg/../build/.././sub/dist/".toList = true ∧
      isProject "/repo/sub/dist/x.py".toList = false := by
  constructor
  · apply (isProject_iff _ rfl).mpr
    exact ⟨["sub".toList, "dist".toList], "dist".toList, by decide +kernel⟩
  · rw [Bool.eq_false_iff, Ne, isProject_iff _ rfl]
    rintro ⟨rest, last, -, -, -, -, hclean⟩
    have hmem : "dist".toList ∈ (components "/repo/sub/dist/x.py".toList).dropLast := by
      decide +kernel
    exact (hclean _ hmem).1 (by decide +kernel)

end Frame
end Audit
end QueryAlgebra
