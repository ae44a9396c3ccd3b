import QueryAlgebra.Audit.Frame
import QueryAlgebra.Audit.Reading

/-!
# Figures of a round

The figures of a coverage report, the shares of project time of the benches, the
modified files of the project, and the number of benches in their file.
-/

namespace QueryAlgebra
namespace Audit

/-! ## Coverage -/

/-- The coverage of a file; the list of its missing lines is left as it stands in the report. -/
structure FileCoverage where
  name : Text
  statements : Int
  missing : Int
  percent : Binary64
  missingLines : Json

/-- The figures of a coverage report; its lists are left as they stand there. -/
structure Figures where
  percent : Binary64
  covered : Int
  statements : Int
  failures : Json
  files : Json

namespace Figures

/-- A count; a missing count is zero. -/
def countOf (key : String) (fields : List (String × Json)) : Except Reading.Fault Int :=
  match Json.field? key fields with
  | none => .ok 0
  | some found => Reading.wholeNumber found

/-- A percentage; a missing percentage is zero. -/
def percentOf (fields : List (String × Json)) : Except Reading.Fault Binary64 :=
  match Json.field? "percent_covered" fields with
  | none => .ok .zero
  | some found => Reading.number found

/-- Reads the figures of a coverage report; what is missing counts as empty. -/
def read (report : Json) : Except Reading.Fault Figures := do
  let totals ← Reading.fields "get" (← Reading.field "totals" report)
  let percent ← percentOf totals
  let covered ← countOf "covered_lines" totals
  let statements ← countOf "num_statements" totals
  let notes ← Reading.fields "get" (← Reading.field "meta" report)
  let files ← Reading.field "files" report
  .ok {
    percent
    covered
    statements
    failures := (Json.field? "_pti_bench_errors" notes).getD .null
    files }

/-- The path of a file as seen from the directory of the project, if it is absolute. -/
def relativePath (name : Text) : Text :=
  if name.head? != some '/' then name
  else
    match Path.components Frame.root, Path.components name with
    | [top], found :: rest =>
      if found = top then if rest.isEmpty then ['.'] else Text.join ['/'] rest
      else "../".toList ++ Text.join ['/'] (found :: rest)
    | _, _ => "..".toList

/-- Reads the coverage of a file. -/
def readFile (name : String) (file : Json) : Except Reading.Fault FileCoverage := do
  let summary ← Reading.fields "get" (← Reading.field "summary" file)
  let statements ← countOf "num_statements" summary
  let missing ← countOf "missing_lines" summary
  let percent ← percentOf summary
  let missingLines ← Reading.field "missing_lines" file
  .ok ⟨relativePath name.toList, statements, missing, percent, missingLines⟩

/-- Reads the coverage of all files of a report. -/
def readFiles (f : Figures) : Except Reading.Fault (List FileCoverage) := do
  (← Reading.fields "items" f.files).mapM fun (name, file) => readFile name file

/-- Reads the failures by the names of benches, which need a length before they are listed. -/
def readFailures (f : Figures) : Except Reading.Fault (List (String × Text)) := do
  let _ ← Reading.length f.failures
  let failures ← Reading.fields "items" f.failures
  .ok (failures.map fun (name, text) => (name, text.readable))

end Figures

/-! ## Shares of project time -/

/-- The percentage of a bench's time that is spent in the project. -/
structure Share where
  name : String
  percent : Binary64

namespace Share

/-- A percentage below this is too little. -/
def threshold : Binary64 :=
  .ofInt 45

/-- The percentage was measured; that of a bench that failed is negative. -/
def isMeasured (s : Share) : Bool :=
  Binary64.zero.le s.percent

/-- The bench spends too little of its time in the project. -/
def isBelow (s : Share) : Bool :=
  s.isMeasured && s.percent.lt threshold

end Share

/-- The shares of all benches, and by the names of benches what else takes their time. -/
structure ShareReport where
  shares : List Share
  hot : List (String × Json)

namespace ShareReport

/-- The report of nothing. -/
def empty : ShareReport :=
  ⟨[], []⟩

/-- Reads the shares of a report. -/
def readShares (report : Json) : Except Reading.Fault (List Share) := do
  let found ← Reading.fields "items" (← Reading.field "repo_time_pct" report)
  let numbers ← Reading.numbers found
  .ok (numbers.map fun (name, percent) => ⟨name, percent⟩)

/-- Reads a report: first the shares, then what else takes time. -/
def read (report : Json) : ShareReport × Option Reading.Fault :=
  match readShares report with
  | .error fault => (empty, some fault)
  | .ok shares =>
    match (Reading.field "hot_ext" report).bind Reading.entries with
    | .error fault => (⟨shares, []⟩, some fault)
    | .ok hot => (⟨shares, hot⟩, none)

/-- What else takes the time of a bench; null if nothing is known. -/
def hotOf (r : ShareReport) (name : String) : Json :=
  (Json.field? name r.hot).getD .null

end ShareReport

/-! ## Files -/

/--
The modified files that a status lists, a line for each with its state in three characters.
Without a status none is known, unless its failure was fatal.
-/
def modifiedFiles : Child → Except Failure (List Text)
  | .failed f => if f.fatal then .error f else .ok []
  | .finished stdout _ _ =>
    .ok (((Text.lines stdout).filter fun line => !(Text.trim line).isEmpty).map (List.drop 3))

end Audit
end QueryAlgebra
