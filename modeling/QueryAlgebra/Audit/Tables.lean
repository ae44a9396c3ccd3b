import QueryAlgebra.Audit.Figures
import QueryAlgebra.Audit.Log
import QueryAlgebra.Audit.Verdict

/-!
# Tables of a round

The lines that a round writes, table by table.
-/

namespace QueryAlgebra
namespace Audit
namespace Tables

/-- Lines, each with its end. -/
def unlines (lines : List Text) : Text :=
  lines.flatMap fun line => line ++ ['\n']

/-- The mark of a row that needs attention, or blanks of the same width. -/
def mark (bad : Bool) : Text :=
  if bad then ['*', ' '] else [' ', ' ']

/-- The width of the names of benches. -/
def nameWidth : Nat :=
  32

/-! ## Coverage -/

/-- The number of characters of a file name that a row shows. -/
def shownName : Nat :=
  60

/-- The number of files that the table lists. -/
def listedFiles : Nat :=
  120

/-- The number of missing lines that a row lists. -/
def listedLines : Nat :=
  12

/-- The name of a file in its row. -/
def fileName (f : FileCoverage) : Text :=
  f.name.take shownName

/-- The width of the column of file names, which has a width of its own only without files. -/
def fileWidth : List FileCoverage → Nat
  | [] => 4
  | files => files.foldl (fun width f => max width (fileName f).length) 0

/-- The missing lines, of which only the first are listed. -/
def missingText (found : Json) : Except Reading.Fault Text :=
  (Reading.listed found).map fun lines =>
    Text.join [','] ((lines.take listedLines).map Json.readable) ++
      if listedLines < lines.length then ['…'] else []

/-- Files with less coverage come first, and of these the ones with more statements. -/
def fileBefore (a b : FileCoverage) : Bool :=
  if a.percent.eq b.percent || (a.percent.isNaN && b.percent.isNaN) then
    decide (b.statements < a.statements)
  else a.percent.lt b.percent

/-- The cells of a row: a name, numbers of statements, and a percentage. -/
def coverageCells (width : Nat) (name : Text) (statements missing : Int) (percent : Binary64) :
    Text :=
  Text.padRight width name ++ [' ', ' '] ++ Text.padLeft 5 (intText statements) ++ [' ', ' '] ++
    Text.padLeft 4 (intText missing) ++ [' ', ' '] ++ Text.padLeft 4 (percent.fixed 0) ++ ['%']

/-- The row of a file. -/
def fileRow (width : Nat) (f : FileCoverage) : Except Reading.Fault Text :=
  (missingText f.missingLines).map fun missing =>
    coverageCells width (fileName f) f.statements f.missing f.percent ++ [' ', ' '] ++ missing

/-- The files that the table lists. -/
def shownFiles (files : List FileCoverage) : List FileCoverage :=
  (Sorting.sort fileBefore files).take listedFiles

/-- The table of covered files, of which only the first are listed. -/
def coverage (f : Figures) (files : List FileCoverage) : Except Reading.Fault (List Text) :=
  let width := fileWidth files
  let rule := List.replicate (width + 42) '-'
  ((shownFiles files).mapM (fileRow width)).map fun rows =>
    [Text.padRight width "Name".toList ++ "  Stmts  Miss  Cover  Missing".toList, rule] ++ rows ++
      [rule, coverageCells width "TOTAL".toList f.statements (f.statements - f.covered) f.percent]

/-! ## Failures -/

/-- The failures of benches, of which only the first are listed. -/
def failures (found : List (String × Text)) : List Text :=
  if found.isEmpty then []
  else
    [[], decimalDigits found.length ++ " bench error(s):".toList] ++
      (found.take 8).map fun (name, text) => "  ".toList ++ name.toList ++ ": ".toList ++ text

/-! ## Shares of project time -/

/-- A place that takes time, with its percentage. -/
def hotText (hot : Json) : Except Reading.Fault Text := do
  let (share, label) ← Reading.pair hot
  .ok (label.readable ++ [' '] ++ (← Reading.shown share).fixed 0 ++ ['%'])

/-- What stands behind the percentage of a bench: that it failed, or what else takes its time. -/
def shareNote (s : Share) (hot : Json) : Except Reading.Fault Text :=
  if s.percent.lt .zero then .ok "  <error>".toList
  else if s.isBelow && !hot.isEmpty then
    match Reading.items? hot with
    | none => .error (.noItems hot)
    | some items => do
      let texts ← items.mapM hotText
      .ok (" (hot: ".toList ++ Text.join [' '] texts ++ [')'])
  else .ok []

/-- The row of a bench up to its percentage. -/
def shareCells (s : Share) : Text :=
  let shown := if s.percent.lt .zero then Binary64.zero else s.percent
  [' ', ' '] ++ mark s.isBelow ++ Text.padRight nameWidth s.name.toList ++ [' '] ++
    Text.padLeft 5 (shown.fixed 1) ++ ['%']

/-- The row of a bench. -/
def shareRow (r : ShareReport) (s : Share) : Except Reading.Fault Text :=
  (shareNote s (r.hotOf s.name)).map fun note => shareCells s ++ note

/-- The shares with the smallest first. -/
def smallestFirst (shares : List Share) : List Share :=
  Sorting.sort (fun a b => a.percent.lt b.percent) shares

/-- The table of shares. -/
def shares (r : ShareReport) : Except Reading.Fault (List Text) :=
  if r.shares.isEmpty then .ok []
  else do
    let rows ← (smallestFirst r.shares).mapM (shareRow r)
    .ok ([[], "repo_time (target 50%; * = below 45%):".toList] ++ rows)

/-! ## Modified files -/

/-- The modified files of the project, of which only the first are listed. -/
def modified (files : List Text) : List Text :=
  if files.isEmpty then []
  else
    [[], "** repo modified (".toList ++ decimalDigits files.length ++
      " file(s)) — revert these; only microbench.py is yours to edit:".toList] ++
      (files.take 10).map fun name => "   ".toList ++ name

/-! ## Self-check -/

/-- What to do about a verdict. -/
def advice : List Text :=
  ["  returns-none: run() has no return — collect and return the call results",
    "  unstable: seed RNG in setup; avoid time/uuid/id in the return",
    "  returns-input: return repo output, not the parameter value",
    "  low-repo-time: <50% of run() time is in repo code — move glue to setup",
    "  param-invariant: return something derived from run()'s work, not setup",
    "  repo-modified: revert edits to repo files (git checkout -- <path>)"].map String.toList

/-- The row of a bench: verdict, result, smallest share and median time. -/
def judgedRow (j : Judged) : Text :=
  let share := ((j.observed.share?.getD .zero).roundTo 2) * .ofInt 100
  let time := (j.observed.time?.getD .zero).roundTo 2
  [' ', ' '] ++ mark (!j.verdict.isGood) ++ Text.padRight nameWidth j.name.toList ++ [' '] ++
    Text.padRight 16 j.verdict.word.toList ++ " (".toList ++ j.observed.returned ++
    ", repo ".toList ++ share.fixed 0 ++ "%) ".toList ++ time.fixed 1 ++ "ms".toList

/-- The rows with those that need attention first. -/
def attentionFirst (rows : List Judged) : List Judged :=
  rows.filter (fun j => !j.verdict.isGood) ++ rows.filter fun j => j.verdict.isGood

/-- The table of verdicts. -/
def selfCheck (rows : List Judged) : List Text :=
  if rows.isEmpty then []
  else
    [[], "self-check (* = fix needed):".toList] ++ advice ++ (attentionFirst rows).map judgedRow

end Tables
end Audit
end QueryAlgebra
