import QueryAlgebra.Audit.Round

/-!
# When a round runs to its end

A round starts a coverage measurement and three more children, and it is meant to
go on whatever becomes of the three: what their runners wrote is read with care, and
a fault is reported on the error output.  The time shares are read in two steps,
though.  The reading keeps what a runner reports about hot places as it stands, and
only the table of shares takes it apart, where a fault ends the round.

So a round with a coverage report that can be read and listed runs to its end if and only
if, for every bench with too small a share, the hot places are a list of pairs of a number
and a label.  The state of the project and the self-check do not matter at all.

Main results:

- Theorem `Sorting.sort_perm`: sorting rearranges.
- Theorem `exists_mapM_eq_ok_iff`: a list is read if and only if all its items are.
- Theorem `Tables.exists_shares_eq_ok_iff`: when the table of shares can be written.
- Theorem `Round.exists_of_survey`: what a round has found before it writes anything.
- Theorem `Round.exists_of_completed`: what a round that ran to its end has read and written.
- Theorem `Round.run_ok_iff`: when a round runs to its end, and what it has written then.
-/

namespace QueryAlgebra

/-! ## Sorting -/

namespace Sorting

variable {α : Type} (before : α → α → Bool)

/-- A run and what follows it make up the list. -/
theorem run_append (continues : α → α → Bool) (last : α) (xs : List α) :
    (run continues last xs).1 ++ (run continues last xs).2 = xs := by
  induction xs generalizing last with
  | nil => rfl
  | cons x xs ih =>
      unfold run
      split
      · exact congrArg (x :: ·) (ih x)
      · rfl

theorem insert_perm (sorted : List α) (x : α) : (insert before sorted x).Perm (x :: sorted) := by
  unfold insert
  refine List.perm_middle.trans (.cons x ?_)
  rw [List.take_append_drop]

/-- Inserting elements adds them and nothing else. -/
theorem foldl_insert_perm (xs sorted : List α) :
    (xs.foldl (insert before) sorted).Perm (sorted ++ xs) := by
  induction xs generalizing sorted with
  | nil => rw [List.foldl_nil, List.append_nil]
  | cons x xs ih =>
      rw [List.foldl_cons]
      exact ((ih _).trans ((insert_perm before sorted x).append_right xs)).trans
        List.perm_middle.symm

/-- Sorting rearranges the list. -/
theorem sort_perm : (xs : List α) → (sort before xs).Perm xs
  | [] => .refl _
  | [x] => .refl _
  | x :: y :: rest => by
      let found := run (fun last next => before next last == before y x) x (y :: rest)
      -- The first run is kept or reversed; either way it is rearranged only.
      have hfirst : (if before y x then (x :: found.1).reverse else x :: found.1).Perm
          (x :: found.1) := by
        split
        · exact List.reverse_perm _
        · exact .refl _
      have hfound : found.1 ++ found.2 = y :: rest := run_append _ x (y :: rest)
      have hsort := (foldl_insert_perm before found.2 _).trans (hfirst.append_right found.2)
      rw [List.cons_append, hfound] at hsort
      exact hsort

end Sorting

namespace Audit

/-! ## Reading all items of a list -/

/-- A list is read if and only if all its items are. -/
theorem exists_mapM_eq_ok_iff {α β ε : Type} (f : α → Except ε β) (xs : List α) :
    (∃ ys, xs.mapM f = .ok ys) ↔ ∀ x ∈ xs, ∃ y, f x = .ok y := by
  induction xs with
  | nil => simp [pure, Except.pure]
  | cons x xs ih =>
      rw [List.forall_mem_cons, ← ih, List.mapM_cons]
      cases hx : f x with
      | error e => simp [bind, Except.bind]
      | ok y =>
          cases hxs : xs.mapM f with
          | error e => simp [bind, Except.bind]
          | ok ys => simp [bind, Except.bind, pure, Except.pure]

/-- One item more is read in front of the others. -/
theorem mapM_cons_eq_ok_iff {α β ε : Type} {f : α → Except ε β} {x : α} {xs : List α}
    {zs : List β} :
    (x :: xs).mapM f = .ok zs ↔ ∃ y ys, f x = .ok y ∧ xs.mapM f = .ok ys ∧ zs = y :: ys := by
  rw [List.mapM_cons]
  cases f x with
  | error e => simp [bind, Except.bind]
  | ok y =>
      cases xs.mapM f with
      | error e => simp [bind, Except.bind]
      | ok ys => simp [bind, Except.bind, pure, Except.pure, eq_comm]

/-- All that is read is read from an item. -/
theorem exists_of_mem_mapM {α β ε : Type} {f : α → Except ε β} {xs : List α} {ys : List β}
    (hread : xs.mapM f = .ok ys) {y : β} (hy : y ∈ ys) : ∃ x ∈ xs, f x = .ok y := by
  induction xs generalizing ys with
  | nil =>
      cases hread
      exact absurd hy List.not_mem_nil
  | cons x xs ih =>
      rcases mapM_cons_eq_ok_iff.mp hread with ⟨first, more, hfirst, hmore, rfl⟩
      rcases List.mem_cons.mp hy with rfl | hy
      · exact ⟨x, List.mem_cons_self, hfirst⟩
      · rcases ih hmore hy with ⟨item, hitem, hitemRead⟩
        exact ⟨item, List.mem_cons_of_mem x hitem, hitemRead⟩

/-- What is seen of the items of a list is seen of what is read from them. -/
theorem map_eq_map_of_mapM {α β γ ε : Type} {f : α → Except ε β} {p : α → γ} {q : β → γ}
    (hseen : ∀ x y, f x = .ok y → q y = p x) {xs : List α} {ys : List β}
    (hread : xs.mapM f = .ok ys) : ys.map q = xs.map p := by
  induction xs generalizing ys with
  | nil =>
      obtain rfl := Except.ok.inj hread
      rfl
  | cons x xs ih =>
      rcases mapM_cons_eq_ok_iff.mp hread with ⟨y, more, hy, hmore, rfl⟩
      rw [List.map_cons, List.map_cons, hseen x y hy, ih hmore]

theorem map_eq_ok_iff {α β ε : Type} {r : Except ε α} {f : α → β} {b : β} :
    r.map f = .ok b ↔ ∃ a, r = .ok a ∧ f a = b := by
  cases r <;> simp [Except.map]

/-- A result that is changed is there if and only if the result is. -/
theorem exists_map_eq_ok_iff {α β ε : Type} (f : α → β) (r : Except ε α) :
    (∃ b, r.map f = .ok b) ↔ ∃ a, r = .ok a := by
  cases r <;> simp [Except.map]

/-- Two steps succeed together if and only if both do. -/
theorem bind_eq_ok_iff {α β ε : Type} {r : Except ε α} {f : α → Except ε β} {b : β} :
    (r >>= f) = .ok b ↔ ∃ a, r = .ok a ∧ f a = .ok b := by
  cases r with
  | error e => simp [bind, Except.bind]
  | ok a => simp [bind, Except.bind]

@[simp] theorem mapError_ok {α ε ε' : Type} (f : ε → ε') (a : α) :
    (Except.ok a : Except ε α).mapError f = .ok a :=
  rfl

@[simp] theorem mapError_error {α ε ε' : Type} (f : ε → ε') (e : ε) :
    (Except.error e : Except ε α).mapError f = .error (f e) :=
  rfl

@[simp] theorem mapError_eq_ok_iff {α ε ε' : Type} {f : ε → ε'} {r : Except ε α} {a : α} :
    r.mapError f = .ok a ↔ r = .ok a := by
  cases r <;> simp

end Audit

/-! ## Hot places that can be shown -/

namespace Json

/-- A number that can be shown; an integer must not be too large for the binary format. -/
def isShown : Json → Bool
  | int n =>
    match Binary64.ofInt n with
    | .infinite _ => false
    | _ => true
  | float _ => true
  | bool _ => true
  | _ => false

end Json

namespace Audit

/-- A number can be shown just if the value is one. -/
theorem Reading.exists_shown_eq_ok_iff (j : Json) :
    (∃ x, shown j = .ok x) ↔ j.isShown = true := by
  cases j with
  | int n =>
      simp only [shown, Json.number?, Option.isSome_some, if_true, number, Json.isShown]
      cases Binary64.ofInt n <;> simp
  | _ => simp [shown, Json.number?, number, Json.isShown]

/-- A pair is read just if there are two items. -/
theorem Reading.pair_eq_ok_iff {j share label : Json} :
    pair j = .ok (share, label) ↔ items? j = some [share, label] := by
  constructor
  · intro hpair
    unfold pair at hpair
    split at hpair
    · contradiction
    · rename_i hitems
      cases hpair
      exact hitems
    · contradiction
  · intro hitems
    simp [pair, hitems]

namespace Tables

/-- A place that takes time: a share that can be shown, and a label. -/
def isPlace : Json → Bool
  | .arr [share, _] => share.isShown
  | _ => false

/-- What is reported about a bench can be shown: nothing, or a list of places. -/
def isShowable : Json → Bool
  | .arr places => places.all isPlace
  | other => other.isEmpty

/-- The items of a text and of an object are texts, so only an array can be a place. -/
theorem isPlace_iff (hot : Json) :
    isPlace hot = true ↔
      ∃ share label, Reading.items? hot = some [share, label] ∧ share.isShown = true := by
  constructor
  · intro hplace
    unfold isPlace at hplace
    split at hplace
    · rename_i share label
      exact ⟨share, label, rfl, hplace⟩
    · contradiction
  · rintro ⟨share, label, hitems, hshown⟩
    cases hot with
    | arr items =>
        obtain rfl : items = [share, label] := Option.some.inj hitems
        exact hshown
    | str s =>
        have hmem : share ∈ s.toList.map fun c => Json.str (String.ofList [c]) := by
          rw [Option.some.inj hitems]
          exact List.mem_cons_self
        rcases List.mem_map.mp hmem with ⟨c, -, rfl⟩
        contradiction
    | obj fields =>
        have hmem : share ∈ fields.map fun field => Json.str field.1 := by
          rw [Option.some.inj hitems]
          exact List.mem_cons_self
        rcases List.mem_map.mp hmem with ⟨field, -, rfl⟩
        contradiction
    | _ => contradiction

/-- A place can be written just if it is a pair with a number. -/
theorem exists_hotText_eq_ok_iff (hot : Json) :
    (∃ t, hotText hot = .ok t) ↔ isPlace hot = true := by
  rw [isPlace_iff]
  constructor
  · rintro ⟨t, ht⟩
    cases hpair : Reading.pair hot with
    | error fault => simp [hotText, hpair, bind, Except.bind] at ht
    | ok found =>
        cases hshown : Reading.shown found.1 with
        | error fault => simp [hotText, hpair, hshown, bind, Except.bind] at ht
        | ok x =>
            exact ⟨found.1, found.2, Reading.pair_eq_ok_iff.mp hpair,
              (Reading.exists_shown_eq_ok_iff _).mp ⟨x, hshown⟩⟩
  · rintro ⟨share, label, hitems, hshare⟩
    rcases (Reading.exists_shown_eq_ok_iff share).mpr hshare with ⟨x, hshown⟩
    simp [hotText, Reading.pair_eq_ok_iff.mpr hitems, hshown, bind, Except.bind]

/-- A text or an object that is not empty has an item, which is no place. -/
theorem isShowable_iff (hot : Json) :
    isShowable hot = true ↔ hot.isEmpty = true ∨
      ∃ items, Reading.items? hot = some items ∧ ∀ item ∈ items, isPlace item = true := by
  constructor
  · intro hshowable
    cases hot with
    | arr places => exact .inr ⟨places, rfl, List.all_eq_true.mp hshowable⟩
    | _ => exact .inl hshowable
  · rintro (hempty | ⟨items, hitems, hall⟩)
    · cases hot with
      | arr places => simp [isShowable, List.isEmpty_iff.mp hempty]
      | _ => exact hempty
    · cases hot with
      | arr places =>
          obtain rfl : places = items := Option.some.inj hitems
          exact List.all_eq_true.mpr hall
      -- A text or an object gives its characters or keys, and none of these is a place.
      | str s =>
          obtain rfl := Option.some.inj hitems
          cases hs : s.toList with
          | nil => simpa [isShowable, Json.isEmpty] using hs
          | cons c more => simp [hs, isPlace] at hall
      | obj fields =>
          obtain rfl := Option.some.inj hitems
          cases fields with
          | nil => rfl
          | cons field more => simp [isPlace] at hall
      | _ => contradiction

/-- A share that is too small has been measured. -/
theorem isBelow_eq_false_of_lt_zero {s : Share} (hlt : s.percent.lt .zero = true) :
    s.isBelow = false := by
  simp [Share.isBelow, Share.isMeasured, Binary64.le, hlt]

/-- The note of a bench can be written if its places can be shown or its share is large enough. -/
theorem exists_shareNote_eq_ok_iff (s : Share) (hot : Json) :
    (∃ t, shareNote s hot = .ok t) ↔ (s.isBelow = true → isShowable hot = true) := by
  unfold shareNote
  by_cases hlt : s.percent.lt .zero = true
  · simp [hlt, isBelow_eq_false_of_lt_zero hlt]
  · rw [if_neg hlt]
    by_cases hnoted : (s.isBelow && !hot.isEmpty) = true
    · rw [if_pos hnoted]
      rw [Bool.and_eq_true, Bool.not_eq_true'] at hnoted
      rw [isShowable_iff, hnoted.1, hnoted.2]
      cases hitems : Reading.items? hot with
      | none => simp
      | some items =>
          have hread : (∃ texts, items.mapM hotText = .ok texts) ↔
              ∀ item ∈ items, isPlace item = true := by
            simp only [exists_mapM_eq_ok_iff, exists_hotText_eq_ok_iff]
          simp only [Option.some.injEq, exists_eq_left', ← hread, Bool.false_eq_true, false_or,
            true_implies]
          cases items.mapM hotText <;> simp [bind, Except.bind]
    · rw [if_neg hnoted]
      rw [Bool.and_eq_true, Bool.not_eq_true', not_and, Bool.not_eq_false] at hnoted
      simp only [Except.ok.injEq, exists_eq', true_iff]
      intro hbelow
      exact (isShowable_iff hot).mpr (.inl (hnoted hbelow))

/-- The table of shares can be written if all hot places of benches with too small a share can. -/
theorem exists_shares_eq_ok_iff (r : ShareReport) :
    (∃ lines, Tables.shares r = .ok lines) ↔
      ∀ s ∈ r.shares, s.isBelow = true → isShowable (r.hotOf s.name) = true := by
  have hrows : (∃ rows, (smallestFirst r.shares).mapM (shareRow r) = .ok rows) ↔
      ∀ s ∈ r.shares, s.isBelow = true → isShowable (r.hotOf s.name) = true := by
    rw [exists_mapM_eq_ok_iff]
    simp only [shareRow, exists_map_eq_ok_iff, exists_shareNote_eq_ok_iff, smallestFirst,
      (Sorting.sort_perm _ _).mem_iff]
  unfold Tables.shares
  by_cases hempty : r.shares.isEmpty = true
  · simp [List.isEmpty_iff.mp hempty]
  · rw [if_neg hempty, ← hrows]
    cases (smallestFirst r.shares).mapM (shareRow r) <;> simp [bind, Except.bind]

/-! ## Coverage reports that can be listed -/

/-- Missing lines that can be listed: the items of an array or of a text, or nothing. -/
def isListable : Json → Bool
  | .arr _ => true
  | .str _ => true
  | other => other.isEmpty

/-- Missing lines can be written just if they can be listed. -/
theorem exists_missingText_eq_ok_iff (found : Json) :
    (∃ t, missingText found = .ok t) ↔ isListable found = true := by
  rw [missingText, exists_map_eq_ok_iff]
  by_cases hempty : found.isEmpty = true
  · cases found <;> simp_all [Reading.listed, isListable]
  · cases found <;> simp_all [Reading.listed, Reading.items?, isListable]

/-- The table of files can be written if the missing lines of all files in it can be listed. -/
theorem exists_coverage_eq_ok_iff (f : Figures) (files : List FileCoverage) :
    (∃ lines, Tables.coverage f files = .ok lines) ↔
      ∀ file ∈ shownFiles files, isListable file.missingLines = true := by
  rw [Tables.coverage, exists_map_eq_ok_iff, exists_mapM_eq_ok_iff]
  simp only [fileRow, exists_map_eq_ok_iff, exists_missingText_eq_ok_iff]

end Tables

namespace Figures

/-- Failures that can be listed by the names of benches: an object, or nothing. -/
def hasNames : Json → Bool
  | .obj _ => true
  | other => other.isEmpty

/-- The files of a report, the missing lines of those in the table, and the failures can be read. -/
structure IsTabular (f : Figures) : Prop where
  files : ∃ files, f.readFiles = .ok files ∧
    ∀ file ∈ Tables.shownFiles files, Tables.isListable file.missingLines = true
  failures : hasNames f.failures = true

/-- Failures that can be listed have a number. -/
theorem exists_length_of_readFailures {f : Figures} {failures : List (String × Text)}
    (hread : f.readFailures = .ok failures) : ∃ count, Reading.length f.failures = .ok count := by
  rw [readFailures, bind_eq_ok_iff] at hread
  rcases hread with ⟨count, hcount, -⟩
  exact ⟨count, hcount⟩

/-- The failures are read just if they have names. -/
theorem exists_readFailures_eq_ok_iff (f : Figures) :
    (∃ failures, f.readFailures = .ok failures) ↔ hasNames f.failures = true := by
  unfold readFailures
  by_cases hempty : f.failures.isEmpty = true
  · cases hfailures : f.failures <;>
      simp_all [Reading.length, Reading.fields, hasNames, bind, Except.bind]
  · cases hfailures : f.failures <;>
      simp_all [Reading.length, Reading.items?, Reading.fields, hasNames, bind, Except.bind]

end Figures

/-! ## The lines of a round -/

namespace Findings

/-- The lines of a round are those of its tables in turn, and the line that sums it up. -/
theorem exists_of_lines_eq_ok {f : Findings} {earlier : List Int} {lines : List Text}
    (hlines : f.lines earlier = .ok lines) :
    ∃ files table failures shares, f.figures.readFiles = .ok files ∧
      Tables.coverage f.figures files = .ok table ∧ f.figures.readFailures = .ok failures ∧
      Tables.shares f.timing = .ok shares ∧
      lines = table ++ Tables.failures failures ++ shares ++
        (if f.judged.isEmpty then [] else Tables.modified f.modified) ++
        Tables.selfCheck f.judged ++ [[], f.closing] ++ f.stopLines earlier := by
  simp only [Findings.lines, bind_eq_ok_iff] at hlines
  rcases hlines with ⟨files, hfiles, table, htable, failures, hfailures, shares, hshares, hlines⟩
  exact ⟨files, table, failures, shares, hfiles, htable, hfailures, hshares,
    (Except.ok.inj hlines).symm⟩

/-- The lines of a round can be written if all its tables can. -/
theorem exists_lines_eq_ok_iff (f : Findings) (earlier : List Int) :
    (∃ lines, f.lines earlier = .ok lines) ↔
      f.figures.IsTabular ∧
        ∀ s ∈ f.timing.shares, s.isBelow = true →
          Tables.isShowable (f.timing.hotOf s.name) = true := by
  rw [← Tables.exists_shares_eq_ok_iff]
  constructor
  · rintro ⟨lines, hlines⟩
    rcases exists_of_lines_eq_ok hlines with
      ⟨files, table, failures, shares, hfiles, htable, hfailures, hshares, -⟩
    refine ⟨⟨⟨files, hfiles, ?_⟩, ?_⟩, shares, hshares⟩
    · exact (Tables.exists_coverage_eq_ok_iff _ files).mp ⟨table, htable⟩
    · exact (Figures.exists_readFailures_eq_ok_iff _).mp ⟨failures, hfailures⟩
  · rintro ⟨htabular, shares, hshares⟩
    rcases htabular.files with ⟨files, hfiles, hlisted⟩
    rcases (Tables.exists_coverage_eq_ok_iff f.figures files).mpr hlisted with ⟨table, htable⟩
    rcases (Figures.exists_readFailures_eq_ok_iff _).mpr htabular.failures with
      ⟨failures, hfailures⟩
    simp only [Findings.lines, bind_eq_ok_iff]
    exact ⟨_, files, hfiles, table, htable, failures, hfailures, shares, hshares, rfl⟩

end Findings

/-! ## Rounds -/

/-- A child that ends a round neither by its output nor by failing. -/
def Child.IsSurvivable : Child → Prop
  | .finished _ _ _ => True
  | .failed f => f.fatal = false

namespace Round

/-- What a round hears from a runner; without a runner that is nothing. -/
def heard {α : Type} (file : Option Text) (runner : String)
    (read : Json → α × Option Reading.Fault) (nothing : α) (child : Child) : Reading.Result α :=
  if file.isSome then Reading.ofChild runner read nothing child else ⟨nothing, []⟩

/-- A child that is no fatal failure is always heard. -/
theorem consult_of_survivable {α : Type} (file : Option Text) (runner : String)
    (read : Json → α × Option Reading.Fault) (nothing : α) {child : Child}
    (hchild : child.IsSurvivable) :
    consult file runner read nothing child = .ok (heard file runner read nothing child) := by
  cases file with
  | none => rfl
  | some text =>
      cases child with
      | finished stdout stderr code => rfl
      | failed f =>
          have hfatal : f.fatal = false := hchild
          simp [consult, heard, hfatal]

/-- A round that went on heard its runner, if there was one. -/
theorem eq_heard_of_consult {α : Type} {file : Option Text} {runner : String}
    {read : Json → α × Option Reading.Fault} {nothing : α} {child : Child}
    {found : Reading.Result α} (hconsult : consult file runner read nothing child = .ok found) :
    found = heard file runner read nothing child := by
  cases file with
  | none =>
      cases hconsult
      rfl
  | some text =>
      cases child with
      | finished stdout stderr code =>
          cases hconsult
          rfl
      | failed f =>
          simp only [consult] at hconsult
          split at hconsult
          · contradiction
          · cases hconsult
            rfl

/-- The modified files of the project, as far as a round knows them. -/
def modified (c : Conditions) : List Text :=
  (modifiedFiles c.children.status).toOption.getD []

/-- What a round hears about time shares. -/
def timing (c : Conditions) : Reading.Result ShareReport :=
  heard c.files.timeRunner "repotime" ShareReport.read .empty c.children.timeShares

/-- What a round hears about self-checks. -/
def judged (c : Conditions) : Reading.Result (List Judged) :=
  heard c.files.checkRunner "semcheck" (Judged.ofReport !(modified c).isEmpty) []
    c.children.selfCheck

/-- The figures of a coverage report. -/
def readReport (report : Text) : Except Reading.Fault Figures := do
  let parsed ← (Json.parse report).mapError (.unreadable report)
  Figures.read parsed

/-- What a round finds. -/
def findings (c : Conditions) (figures : Figures) : Findings where
  number := Log.nextRound (c.files.log.getD [])
  benches := (c.files.benches.map BenchCount.ofSource).getD 0
  figures
  timing := (timing c).found
  modified := modified c
  judged := (judged c).found
  elapsed := c.elapsed

@[simp] theorem findings_figures (c : Conditions) (figures : Figures) :
    (findings c figures).figures = figures :=
  rfl

@[simp] theorem findings_timing (c : Conditions) (figures : Figures) :
    (findings c figures).timing = (timing c).found :=
  rfl

@[simp] theorem findings_judged (c : Conditions) (figures : Figures) :
    (findings c figures).judged = (judged c).found :=
  rfl

/-- What a round writes to the error output after this. -/
def complaints (c : Conditions) (stderr : Text) : Text :=
  stderr ++ (timing c).stderr ++ (judged c).stderr

/-- What earlier rounds left in the log. -/
def history (c : Conditions) : Log.History :=
  Log.history c.now (c.files.log.getD [])

/-- The modified files are known if asking for them does not break off the round. -/
theorem modifiedFiles_of_survivable {c : Conditions} (hstatus : c.children.status.IsSurvivable) :
    modifiedFiles c.children.status = .ok (modified c) := by
  cases hchild : c.children.status with
  | finished stdout stderr code =>
      rw [modified, hchild]
      rfl
  | failed f =>
      rw [hchild] at hstatus
      have hfatal : f.fatal = false := hstatus
      rw [modified, hchild, modifiedFiles, hfatal]
      rfl

/-- What a round has found before it writes anything. -/
theorem exists_of_survey {c : Conditions} {report stderr errors : Text} {f : Findings}
    (hsurvey : survey c report stderr = .ok (f, errors)) :
    ∃ figures, readReport report = .ok figures ∧ f = findings c figures ∧
      errors = complaints c stderr := by
  simp only [survey, bind_eq_ok_iff, mapError_eq_ok_iff] at hsurvey
  rcases hsurvey with ⟨parsed, hparsed, figures, hfigures, shares, hshares, files, hfiles, checks,
    hchecks, hfound⟩
  obtain rfl : files = modified c := by rw [modified, hfiles]; rfl
  obtain rfl := eq_heard_of_consult hshares
  obtain rfl := eq_heard_of_consult hchecks
  cases hfound
  refine ⟨figures, ?_, rfl, rfl⟩
  simp only [readReport, bind_eq_ok_iff, mapError_eq_ok_iff]
  exact ⟨parsed, hparsed, hfigures⟩

/-- With children that do not end it, a round finds what it finds from the coverage report. -/
theorem survey_of_survivable {c : Conditions} (htime : c.children.timeShares.IsSurvivable)
    (hstatus : c.children.status.IsSurvivable) (hcheck : c.children.selfCheck.IsSurvivable)
    {report : Text} {figures : Figures} (hread : readReport report = .ok figures) (stderr : Text) :
    survey c report stderr = .ok (findings c figures, complaints c stderr) := by
  simp only [readReport, bind_eq_ok_iff, mapError_eq_ok_iff] at hread
  rcases hread with ⟨parsed, hparsed, hfigures⟩
  simp only [survey, bind_eq_ok_iff, mapError_eq_ok_iff]
  exact ⟨parsed, hparsed, figures, hfigures, _, consult_of_survivable _ _ _ _ htime, _,
    modifiedFiles_of_survivable hstatus, _, consult_of_survivable _ _ _ _ hcheck, rfl⟩

/-- A round that has found something runs to its end if its lines can be written. -/
theorem concluded_outcome_iff {c : Conditions} {f : Findings} {stderr : Text} {o : Outcome} :
    (concluded c f stderr).outcome = .ok o ↔
      ∃ lines, f.lines (history c).belows = .ok lines ∧
        o = ⟨Tables.unlines lines, stderr, none⟩ := by
  simp only [concluded, history]
  cases f.lines (Log.history c.now (c.files.log.getD [])).belows with
  | error fault => simp [Except.map]
  | ok lines => simp [Except.map, eq_comm]

/-- A round that ran to its end surveyed a coverage report and wrote its lines. -/
theorem exists_of_completed {c : Conditions} {o : Outcome} (hrun : (run c).outcome = .ok o)
    (hend : o.exit = none) :
    ∃ report stderr figures lines, c.files.coverage = some report ∧
      readReport report = .ok figures ∧
      (findings c figures).lines (history c).belows = .ok lines ∧
      o = ⟨Tables.unlines lines, complaints c stderr, none⟩ ∧
      (run c).log = (findings c figures).appended c.now (history c) c.files.log := by
  -- Only a coverage run that finished, with its report, lets the round go on.
  have hcovered : ∃ report stderr, c.files.coverage = some report ∧
      run c = covered c report stderr := by
    unfold run at hrun ⊢
    split at hrun
    · contradiction
    · rename_i out err code _
      split at hrun
      · rename_i report hreport
        split at hrun
        · rename_i hcode
          exact ⟨report, err, hreport, if_pos hcode⟩
        · cases hrun
          contradiction
      · cases hrun
        contradiction
  rcases hcovered with ⟨report, stderr, hreport, hcovered⟩
  rw [hcovered, covered] at hrun
  rw [hcovered, covered]
  cases hsurvey : survey c report stderr with
  | error fault =>
      rw [hsurvey] at hrun
      contradiction
  | ok found =>
      rcases found with ⟨f, errors⟩
      rw [hsurvey] at hrun
      rcases exists_of_survey hsurvey with ⟨figures, hread, rfl, rfl⟩
      rcases concluded_outcome_iff.mp hrun with ⟨lines, hlines, ho⟩
      exact ⟨report, stderr, figures, lines, hreport, hread, hlines, ho, rfl⟩

/-- The round runs to its end. -/
def completes (c : Conditions) : Bool :=
  match (run c).outcome with
  | .ok o => o.exit.isNone
  | .error _ => false

/-- A round that completes has an outcome without an exit code. -/
theorem exists_of_completes {c : Conditions} (hcompletes : completes c = true) :
    ∃ o, (run c).outcome = .ok o ∧ o.exit = none := by
  unfold completes at hcompletes
  cases hrun : (run c).outcome with
  | error fault => simp [hrun] at hcompletes
  | ok o => exact ⟨o, rfl, by simpa [hrun] using hcompletes⟩

/--
The output of a round that ran to its end: it starts with the table of covered files
and goes on to the line that sums up the round.
-/
def Completed (c : Conditions) (figures : Figures) (o : Outcome) : Prop :=
  o.exit = none ∧ ∃ files table between last, figures.readFiles = .ok files ∧
    Tables.coverage figures files = .ok table ∧
    o.stdout = Tables.unlines (table ++ between ++ (findings c figures).closing :: last)

/--
A round with a finished coverage measurement and with children that do not end it runs to
its end if and only if the coverage report can be read and listed and the hot places of all
benches with too small a share can be shown.  It has then written the table of covered
files and the line that sums up the round.
-/
theorem run_ok_iff (c : Conditions) (report out err : Text)
    (hcoverage : c.children.coverage = .finished out err 0)
    (hreport : c.files.coverage = some report)
    (htime : c.children.timeShares.IsSurvivable) (hstatus : c.children.status.IsSurvivable)
    (hcheck : c.children.selfCheck.IsSurvivable) :
    ((∃ o, (run c).outcome = .ok o) ↔
      (∃ figures, readReport report = .ok figures ∧ figures.IsTabular) ∧
        ∀ s ∈ (timing c).found.shares, s.isBelow = true →
          Tables.isShowable ((timing c).found.hotOf s.name) = true) ∧
      ∀ o, (run c).outcome = .ok o →
        ∃ figures, readReport report = .ok figures ∧ Completed c figures o := by
  have hrun : run c = covered c report err := by simp [run, hcoverage, hreport]
  rw [hrun, covered]
  cases hread : readReport report with
  | error fault =>
      cases hsurvey : survey c report err with
      | error fault => simp
      | ok found =>
          -- A round that has found something has read the report.
          rcases exists_of_survey hsurvey with ⟨figures, hfigures, -⟩
          rw [hread] at hfigures
          contradiction
  | ok figures =>
      rw [survey_of_survivable htime hstatus hcheck hread]
      simp only [concluded_outcome_iff]
      constructor
      · have hlines := (findings c figures).exists_lines_eq_ok_iff (history c).belows
        simp only [findings_figures, findings_timing] at hlines
        rw [exists_comm]
        simpa using hlines
      · rintro o ⟨lines, hlines, rfl⟩
        rcases Findings.exists_of_lines_eq_ok hlines with
          ⟨files, table, failures, shares, hfiles, htable, -, -, rfl⟩
        let f := findings c figures
        refine ⟨figures, rfl, rfl, files, table,
          Tables.failures failures ++ shares ++
            (if f.judged.isEmpty then [] else Tables.modified f.modified) ++
            Tables.selfCheck f.judged ++ [[]],
          f.stopLines (history c).belows, hfiles, htable, congrArg Tables.unlines ?_⟩
        simp only [f, List.append_assoc, List.cons_append, List.nil_append]

/-! ## Two rounds -/

/-- A coverage report without files. -/
def shortReport : Text :=
  ("\x7b\"totals\": \x7b\"percent_covered\": 70.0, \"covered_lines\": 7, " ++
    "\"num_statements\": 10\x7d, \"meta\": \x7b\x7d, \"files\": \x7b\x7d\x7d").toList

/-- What a runner writes about one bench with too small a share and these hot places. -/
def shareLine (places : String) : Text :=
  ("\x7b\"repo_time_pct\": \x7b\"bench_a\": 10.0\x7d, \"hot_ext\": \x7b\"bench_a\": " ++
    places ++ "\x7d\x7d").toList

/-- A round that hears of these hot places. -/
def roundWith (places : String) : Conditions where
  files := ⟨some shortReport, none, none, some [], some []⟩
  children :=
    { coverage := .finished [] [] 0
      timeShares := .finished (shareLine places) [] 0
      status := .failed ⟨"OSError", "no such program", false⟩
      selfCheck := .finished ['['] [] 1 }
  elapsed := .ofInt 1
  now := .ofInt 1000

/-- A report without files and without failures can be listed. -/
theorem isTabular_of_empty {f : Figures} (hfiles : f.files = .obj [])
    (hfailures : f.failures = .null) : f.IsTabular := by
  refine ⟨⟨[], ?_, fun file hfile => absurd hfile List.not_mem_nil⟩, ?_⟩
  · rw [Figures.readFiles, hfiles]
    rfl
  · rw [hfailures]
    rfl

/-- The short report is read. -/
def isShort : Except Reading.Fault Figures → Bool
  | .ok ⟨_, _, _, .null, .obj []⟩ => true
  | _ => false

/-- The short report is read and can be shown. -/
theorem exists_readReport_shortReport :
    ∃ figures, readReport shortReport = .ok figures ∧ figures.IsTabular := by
  have hshort : isShort (readReport shortReport) = true := by decide +kernel
  unfold isShort at hshort
  split at hshort
  · rename_i hread
    exact ⟨_, hread, isTabular_of_empty rfl rfl⟩
  · contradiction

/-- The round with a pair in the place of a hot spot is completed. -/
theorem completed_roundWith_pair :
    (roundWith "[[60.0, \"re\"]]").children.timeShares.IsSurvivable ∧
      (roundWith "[[60.0, \"re\"]]").children.status.IsSurvivable ∧
      (roundWith "[[60.0, \"re\"]]").children.selfCheck.IsSurvivable ∧
      ∃ o figures, (run (roundWith "[[60.0, \"re\"]]")).outcome = .ok o ∧
        Completed (roundWith "[[60.0, \"re\"]]") figures o := by
  have hround := run_ok_iff (roundWith "[[60.0, \"re\"]]") shortReport [] [] rfl rfl trivial rfl
    trivial
  rcases hround.1.mpr ⟨exists_readReport_shortReport, by decide +kernel⟩ with ⟨o, ho⟩
  rcases hround.2 o ho with ⟨figures, -, hcompleted⟩
  exact ⟨trivial, rfl, trivial, o, figures, ho, hcompleted⟩

/-- A hot place without a share ends the round, though all else could be read. -/
theorem run_roundWith_label :
    (roundWith "[\"q\"]").children.coverage = .finished [] [] 0 ∧
      (roundWith "[\"q\"]").files.coverage = some shortReport ∧
      (∃ figures, readReport shortReport = .ok figures ∧ figures.IsTabular) ∧
      (run (roundWith "[\"q\"]")).outcome = .error (.report (.pairOf 1)) := by
  refine ⟨rfl, rfl, exists_readReport_shortReport, ?_⟩
  have hfault : (match (run (roundWith "[\"q\"]")).outcome with
      | .error (.report (.pairOf count)) => count == 1
      | _ => false) = true := by
    decide +kernel
  split at hfault
  · rename_i count hrun
    rw [hrun, beq_iff_eq.mp hfault]
  · contradiction

end Round
end Audit
end QueryAlgebra
