import QueryAlgebra.Proofs.RoundCompletion

/-!
# Marks and counts

A round marks the rows of benches that need attention: in the table of shares those with
too small a share, and in the table of verdicts those that do not check themselves.  The
same benches are counted in the line that sums up the round and in the line for the log.
The counts are taken before the rows are sorted and by other tests than the marks, but
they agree: the marked rows are as many as both lines say, and as many as the map of
verdicts in the log has entries that are no good.

Main results:

- Theorem `Tables.marked_of_shareRows`: the rows of the table of shares and their marks.
- Theorem `Tables.countP_checkRows`: the marks of the table of verdicts.
- Theorem `Findings.below_eq_countP`: the count of benches with too small a share.
- Theorem `Round.marks_eq_counts`: marks, closing line and log line of a round agree.
-/

namespace QueryAlgebra
namespace Audit

/-! ## Marked rows -/

namespace Tables

/-- A row with the mark of a bench that needs attention. -/
def isMarked (row : Text) : Bool :=
  row.take 4 == [' ', ' ', '*', ' ']

/-- The number of marked rows. -/
def marked (rows : List Text) : Nat :=
  rows.countP isMarked

/-- A row is marked just if it was given the mark. -/
@[simp] theorem isMarked_mark (bad : Bool) (rest : Text) :
    isMarked ([' ', ' '] ++ mark bad ++ rest) = bad := by
  cases bad <;> rfl

/-- The row of a bench is marked if its share is too small. -/
theorem isMarked_of_shareRow {r : ShareReport} {s : Share} {row : Text}
    (hrow : shareRow r s = .ok row) : isMarked row = s.isBelow := by
  unfold shareRow at hrow
  cases hnote : shareNote s (r.hotOf s.name) with
  | error fault => simp [hnote, Except.map] at hrow
  | ok note =>
      rw [hnote] at hrow
      obtain rfl := Except.ok.inj hrow
      simp only [shareCells, List.append_assoc]
      exact isMarked_mark _ _

/-- The row of a bench is marked if the bench does not check itself. -/
theorem isMarked_judgedRow (j : Judged) : isMarked (judgedRow j) = !j.verdict.isGood := by
  simp only [judgedRow, List.append_assoc]
  exact isMarked_mark _ _

/-! ## Tables of rows -/

theorem isEmpty_eq_of_length_eq {α β : Type} {xs : List α} {ys : List β}
    (hlength : xs.length = ys.length) : xs.isEmpty = ys.isEmpty := by
  rw [Bool.eq_iff_iff, List.isEmpty_iff_length_eq_zero, List.isEmpty_iff_length_eq_zero, hlength]

/-- A table with a title above its rows; without rows there is none. -/
def titled (title rows : List Text) : List Text :=
  if rows.isEmpty then [] else title ++ rows

/-- The title of the table of shares. -/
def shareTitle : List Text :=
  [[], "repo_time (target 50%; * = below 45%):".toList]

/-- The rows of the table of shares, those with the smallest shares first. -/
def shareRows (r : ShareReport) : Except Reading.Fault (List Text) :=
  (smallestFirst r.shares).mapM (shareRow r)

/-- The table of shares has a row for each bench, marked if its share is too small. -/
theorem marked_of_shareRows {r : ShareReport} {rows : List Text} (hrows : shareRows r = .ok rows) :
    rows.length = r.shares.length ∧ marked rows = r.shares.countP Share.isBelow := by
  have hmarks : rows.map isMarked = (smallestFirst r.shares).map Share.isBelow :=
    map_eq_map_of_mapM (fun _ _ => isMarked_of_shareRow) hrows
  have hperm : (smallestFirst r.shares).Perm r.shares := Sorting.sort_perm _ _
  constructor
  · have hlength := congrArg List.length hmarks
    rwa [List.length_map, List.length_map, hperm.length_eq] at hlength
  · have hcount := congrArg (List.countP id) hmarks
    rwa [List.countP_map, List.countP_map, hperm.countP_eq] at hcount

/-- The table of shares is its rows under a title. -/
theorem shares_eq (r : ShareReport) : shares r = (shareRows r).map (titled shareTitle) := by
  unfold shares
  split
  · rename_i hempty
    rw [shareRows, List.isEmpty_iff.mp hempty]
    rfl
  · rename_i hsome
    rw [← shareRows]
    cases hrows : shareRows r with
    | error fault => rfl
    | ok rows =>
        have hnonempty : ¬ rows.isEmpty = true := by
          rwa [isEmpty_eq_of_length_eq (marked_of_shareRows hrows).1]
        simp only [bind, Except.bind, Except.map, titled, if_neg hnonempty]
        rfl

/-- The title of the table of verdicts. -/
def checkTitle : List Text :=
  [[], "self-check (* = fix needed):".toList] ++ advice

/-- The rows of the table of verdicts. -/
def checkRows (judged : List Judged) : List Text :=
  (attentionFirst judged).map judgedRow

/-- Showing some rows first loses none. -/
theorem attentionFirst_perm (judged : List Judged) : (attentionFirst judged).Perm judged := by
  have hsplit := List.filter_append_perm (fun j : Judged => !j.verdict.isGood) judged
  simpa [attentionFirst] using hsplit

theorem length_checkRows (judged : List Judged) : (checkRows judged).length = judged.length := by
  rw [checkRows, List.length_map, (attentionFirst_perm judged).length_eq]

/-- The table of verdicts is its rows under a title. -/
theorem selfCheck_eq (judged : List Judged) :
    selfCheck judged = titled checkTitle (checkRows judged) := by
  have hempty := isEmpty_eq_of_length_eq (length_checkRows judged)
  rw [selfCheck, titled, hempty, checkTitle, checkRows]

/-- The table of verdicts has as many marks as there are benches that do not check themselves. -/
theorem countP_checkRows (judged : List Judged) :
    marked (checkRows judged) = judged.countP fun j => !j.verdict.isGood := by
  rw [marked, checkRows, List.countP_map, (attentionFirst_perm judged).countP_eq]
  exact List.countP_congr fun j _ => by rw [Function.comp_apply, isMarked_judgedRow]

end Tables

/-! ## Counts -/

/-- The words of good verdicts. -/
theorem Verdict.isGood_eq (v : Verdict) :
    v.isGood = (v.word == "ok" || v.word == "ok-unparam") := by
  cases v <;> decide

namespace Findings

open Tables

/-- A measured share that is below the threshold is too small, and conversely. -/
theorem below_eq_countP (f : Findings) : f.below = f.timing.shares.countP Share.isBelow := by
  rw [below, List.filter_filter, ← List.countP_eq_length_filter]
  apply List.countP_congr
  intro s _
  rw [Share.isBelow, Bool.and_comm]

/-- The benches that do not pass are counted. -/
theorem notChecking_eq_countP (f : Findings) :
    f.notChecking = f.judged.countP fun j => !j.verdict.isGood := by
  rw [notChecking, List.countP_eq_length_filter]

theorem measured_eq_zero (f : Findings) :
    f.measured = 0 ↔ f.timing.shares.any Share.isMeasured = false := by
  simp [measured]

/-- The marked rows of shares are the benches below the threshold. -/
theorem marked_eq_below {f : Findings} {rows : List Text} (hrows : shareRows f.timing = .ok rows) :
    marked rows = f.below := by
  rw [(marked_of_shareRows hrows).2, below_eq_countP]

/-- The marked rows of verdicts are the benches that do not pass. -/
theorem marked_checkRows (f : Findings) : marked (checkRows f.judged) = f.notChecking := by
  rw [countP_checkRows, notChecking_eq_countP]

/-- What the closing line tells about a table with these rows: the marked ones out of some. -/
def countText (rows : List Text) (whole : Nat) (label : String) : Text :=
  if rows.isEmpty then [] else ", ".toList ++ outOf (marked rows) whole ++ label.toList

/-- What the closing line tells before the counts. -/
def openingText (f : Findings) : Text :=
  "[round ".toList ++ decimalDigits f.number ++ ": ".toList ++ decimalDigits f.benches ++
    " benches, ".toList ++ f.figures.percent.fixed 1 ++ "% covered".toList

/-- What the closing line tells behind the counts. -/
def endingText (f : Findings) : Text :=
  ", measured in ".toList ++ (f.elapsed.fixed 1 ++ "s]".toList)

/-- The closing line tells the numbers of marked rows. -/
theorem closing_eq {f : Findings} {rows : List Text} (hrows : shareRows f.timing = .ok rows) :
    f.closing = f.openingText ++ countText rows f.measured " below repo_time 45%" ++
      countText (checkRows f.judged) f.judged.length " not self-checking" ++ f.endingText := by
  have hshares := isEmpty_eq_of_length_eq (marked_of_shareRows hrows).1
  have hchecks := isEmpty_eq_of_length_eq (length_checkRows f.judged)
  have hending : f.endingText = ", measured in ".toList ++ (f.elapsed.fixed 1 ++ "s]".toList) :=
    rfl
  rw [countText, countText, hshares, hchecks, marked_eq_below hrows, marked_checkRows, hending,
    ← List.append_assoc, ← List.append_assoc]
  rfl

/-- The verdict that an entry of the log tells is a good one. -/
def tellsGood : Json → Bool
  | .str word => word == "ok" || word == "ok-unparam"
  | _ => false

/-- The counts that a line of the log tells are those of the marked rows. -/
structure Counts (f : Findings) (rows : List Text) (line : Json) : Prop where
  below : line.get? "n_below_repo_time" =
    some (if f.timing.shares.any Share.isMeasured then .int (marked rows) else .null)
  notChecking : line.get? "n_not_self_checking" = some (.int (marked (checkRows f.judged)))
  verdicts : ∃ entries, line.get? "semcheck" = some (.obj entries) ∧
    (entries.countP fun entry => !tellsGood entry.2) = marked (checkRows f.judged)

/-- The line of the log counts the marked rows. -/
theorem counts_logLine {f : Findings} {rows : List Text} (hrows : shareRows f.timing = .ok rows)
    (now sinceLast : Binary64) (failures : Nat) :
    f.Counts rows (f.logLine now sinceLast failures) where
  below := by
    have hbelow : (f.logLine now sinceLast failures).get? "n_below_repo_time" =
        some (if f.measured = 0 then .null else .int f.below) :=
      rfl
    rw [hbelow, marked_eq_below hrows]
    by_cases hmeasured : f.measured = 0
    · rw [if_pos hmeasured, (measured_eq_zero f).mp hmeasured]
      rfl
    · rw [if_neg hmeasured, if_pos (by simpa [measured_eq_zero] using hmeasured)]
  notChecking := by
    rw [marked_checkRows]
    rfl
  verdicts := by
    refine ⟨f.judged.map fun j => (j.name, .str j.verdict.word), rfl, ?_⟩
    rw [countP_checkRows, List.countP_map]
    apply List.countP_congr
    intro j _
    rw [Function.comp_apply, tellsGood, Verdict.isGood_eq]

/-- The lines of a round hold both tables, and behind them the closing line. -/
theorem exists_tables_of_lines {f : Findings} {earlier : List Int} {lines : List Text}
    (hlines : f.lines earlier = .ok lines) :
    ∃ before rows between count, shareRows f.timing = .ok rows ∧
      Reading.length f.figures.failures = .ok count ∧
      lines = before ++ titled shareTitle rows ++ between ++
        titled checkTitle (checkRows f.judged) ++ [[], f.closing] ++ f.stopLines earlier := by
  rcases exists_of_lines_eq_ok hlines with
    ⟨files, table, failures, shares, -, -, hfailures, hshares, rfl⟩
  rcases Figures.exists_length_of_readFailures hfailures with ⟨count, hcount⟩
  rw [shares_eq] at hshares
  cases hrows : shareRows f.timing with
  | error fault => simp [hrows, Except.map] at hshares
  | ok rows =>
      rw [hrows] at hshares
      obtain rfl := Except.ok.inj hshares
      refine ⟨table ++ Tables.failures failures, rows,
        if f.judged.isEmpty then [] else Tables.modified f.modified, count, rfl, hcount, ?_⟩
      rw [← selfCheck_eq]

end Findings

/-! ## Rounds -/

namespace Round

open Tables

/--
In a round that ran to its end, the marked rows of both tables are as many as the closing
line tells, and as the line tells that was appended to the log, if there was one.
-/
theorem marks_eq_counts {c : Conditions} {o : Outcome} (hrun : (run c).outcome = .ok o)
    (hend : o.exit = none) :
    ∃ report figures before rows between last, ∃ f : Findings,
      c.files.coverage = some report ∧ readReport report = .ok figures ∧
      f = findings c figures ∧ shareRows f.timing = .ok rows ∧
      o.stdout = unlines (before ++ titled shareTitle rows ++ between ++
        titled checkTitle (checkRows f.judged) ++ [[], f.openingText ++
          Findings.countText rows f.measured " below repo_time 45%" ++
          Findings.countText (checkRows f.judged) f.judged.length " not self-checking" ++
          f.endingText] ++ last) ∧
      ((history c).sinceLast = none ∧ (run c).log = c.files.log ∨
        ∃ line : Json, (run c).log = some (c.files.log.getD [] ++ line.render ++ ['\n']) ∧
          f.Counts rows line) := by
  rcases exists_of_completed hrun hend with
    ⟨report, stderr, figures, lines, hreport, hread, hlines, rfl, hlog⟩
  rcases Findings.exists_tables_of_lines hlines with
    ⟨before, rows, between, count, hrows, hcount, rfl⟩
  refine ⟨report, figures, before, rows, between,
    (findings c figures).stopLines (history c).belows, _, hreport, hread, rfl, hrows, ?_, ?_⟩
  · rw [← Findings.closing_eq hrows]
  · rw [hlog]
    cases hsince : (history c).sinceLast with
    | none =>
        left
        refine ⟨rfl, ?_⟩
        simp only [Findings.appended, hsince]
    | some sinceLast =>
        right
        refine ⟨(findings c figures).logLine c.now sinceLast count, ?_,
          Findings.counts_logLine hrows c.now sinceLast count⟩
        simp only [Findings.appended, hsince, hcount]

/-- A round with a share that is too small and with a bench of which nothing is known. -/
def markedRound : Conditions :=
  { roundWith "[]" with
    children :=
      { (roundWith "[]").children with
        selfCheck :=
          .finished "\x7b\"semcheck\": \x7b\"bench_a\": \x7b\x7d\x7d\x7d".toList [] 0 } }

/-- Both tables of the round have a row, and the line that closes it counts their marks. -/
theorem marks_markedRound :
    ∃ o report figures before rows between last, ∃ f : Findings,
      (run markedRound).outcome = .ok o ∧ o.exit = none ∧ readReport report = .ok figures ∧
      f = findings markedRound figures ∧ shareRows f.timing = .ok rows ∧
      o.stdout = unlines (before ++ titled shareTitle rows ++ between ++
        titled checkTitle (checkRows f.judged) ++ [[], f.openingText ++
          Findings.countText rows f.measured " below repo_time 45%" ++
          Findings.countText (checkRows f.judged) f.judged.length " not self-checking" ++
          f.endingText] ++ last) ∧
      rows.length = 1 ∧ f.judged.length = 1 := by
  have hread : completes markedRound = true ∧ (timing markedRound).found.shares.length = 1 ∧
      (judged markedRound).found.length = 1 := by
    decide +kernel
  rcases hread with ⟨hcompletes, hshares, hchecks⟩
  rcases exists_of_completes hcompletes with ⟨o, hrun, hend⟩
  rcases marks_eq_counts hrun hend with
    ⟨report, figures, before, rows, between, last, f, -, hreport, hf, hrows, hout, -⟩
  refine ⟨o, report, figures, before, rows, between, last, f, hrun, hend, hreport, hf, hrows,
    hout, ?_, ?_⟩
  · rw [(marked_of_shareRows hrows).1, hf, findings_timing, hshares]
  · rw [hf, findings_judged, hchecks]

end Round

end Audit
end QueryAlgebra
