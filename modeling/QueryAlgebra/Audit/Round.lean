import QueryAlgebra.Audit.BenchCount
import QueryAlgebra.Audit.Tables

/-!
# Rounds

A round measures coverage, time shares and self-checks, writes what it found,
appends a line to the log, and says when further rounds will not help.
-/

namespace QueryAlgebra
namespace Audit

/-- The files that a round reads, each with its text if it exists. -/
structure Files where
  coverage : Option Text
  benches : Option Text
  log : Option Text
  timeRunner : Option Text
  checkRunner : Option Text

/-- What became of the programs that a round starts. -/
structure Children where
  coverage : Child
  timeShares : Child
  status : Child
  selfCheck : Child

/-- All that a round depends on. -/
structure Conditions where
  files : Files
  children : Children
  elapsed : Binary64
  now : Binary64

/-- What a round writes, and the code with which it ended early. -/
structure Outcome where
  stdout : Text
  stderr : Text
  exit : Option Int

/-- Why a round gives no outcome. -/
inductive RoundFault where
  | stopped (f : Failure)
  | report (fault : Reading.Fault)

/-- How a round ends: its outcome, or why it has none, and the log that it leaves in both cases. -/
structure Ending where
  outcome : Except RoundFault Outcome
  log : Option Text

/-- What a round found. -/
structure Findings where
  number : Nat
  benches : Nat
  figures : Figures
  timing : ShareReport
  modified : List Text
  judged : List Judged
  elapsed : Binary64

namespace Findings

/-- The number of benches whose share was measured. -/
def measured (f : Findings) : Nat :=
  (f.timing.shares.filter Share.isMeasured).length

/-- The number of measured benches with too small a share. -/
def below (f : Findings) : Nat :=
  ((f.timing.shares.filter Share.isMeasured).filter fun s => s.percent.lt Share.threshold).length

/-- The number of benches that do not check themselves. -/
def notChecking (f : Findings) : Nat :=
  (f.judged.filter fun j => !j.verdict.isGood).length

/-! ## The log line -/

/-- The line for the log, with the number of benches that failed. -/
def logLine (f : Findings) (now sinceLast : Binary64) (failures : Nat) : Json :=
  .obj [
    ("round", .int f.number),
    ("ts", .float now),
    ("wall_since_prev_s", .float sinceLast),
    ("coverage_pct", .float f.figures.percent),
    ("covered_lines", .int f.figures.covered),
    ("num_statements", .int f.figures.statements),
    ("n_bench_fns", .int f.benches),
    ("n_bench_errors", .int failures),
    ("cov_measure_s", .float (f.elapsed.roundTo 3)),
    ("repo_time_pct", .obj (f.timing.shares.map fun s => (s.name, .float s.percent))),
    ("n_below_repo_time", if f.measured = 0 then .null else .int f.below),
    ("semcheck", .obj (f.judged.map fun j => (j.name, .str j.verdict.word))),
    ("n_not_self_checking", .int f.notChecking)]

/--
The log after the round.  It is left alone if it cannot be continued or if the failures
of the benches have no number.
-/
def appended (f : Findings) (now : Binary64) (history : Log.History) (log : Option Text) :
    Option Text :=
  match history.sinceLast, Reading.length f.figures.failures with
  | some sinceLast, .ok failures =>
    some (log.getD [] ++ (f.logLine now sinceLast failures).render ++ ['\n'])
  | _, _ => log

/-! ## The closing lines -/

/-- A part of a whole, as in `1/3`. -/
def outOf (part whole : Nat) : Text :=
  decimalDigits part ++ ['/'] ++ decimalDigits whole

/-- The line that sums up the round. -/
def closing (f : Findings) : Text :=
  "[round ".toList ++ decimalDigits f.number ++ ": ".toList ++ decimalDigits f.benches ++
    " benches, ".toList ++ f.figures.percent.fixed 1 ++ "% covered".toList ++
    (if f.timing.shares.isEmpty then []
      else ", ".toList ++ outOf f.below f.measured ++ " below repo_time 45%".toList) ++
    (if f.judged.isEmpty then []
      else ", ".toList ++ outOf f.notChecking f.judged.length ++ " not self-checking".toList) ++
    ", measured in ".toList ++ f.elapsed.fixed 1 ++ "s]".toList

/-- Why a round is the last. -/
inductive Stop where
  | converged
  | plateau (p : Plateau)
  deriving DecidableEq, Repr

/-- Whether a round is the last, given the counts of earlier rounds. -/
def stop? (f : Findings) (earlier : List Int) : Option Stop :=
  if f.measured = 0 || !enoughCoverage.le f.figures.percent then none
  else if f.below = 0 then some .converged
  else
    match Plateau.of? (earlier ++ [(f.below : Int)]) with
    | some p => if Plateau.patience ≤ p.age then some (.plateau p) else none
    | none => none

/-- The reason for stopping. -/
def Stop.reason : Stop → Text
  | converged => "0 below".toList
  | plateau p =>
    "no improvement in ".toList ++ decimalDigits p.age ++ " rounds; best ".toList ++
      intText p.best ++ " below".toList

/-- The message that a round is the last. -/
def Stop.message (s : Stop) : Text :=
  ">>> STOP: repo_time converged (".toList ++ s.reason ++
    "). Finalize microbench.py now. <<<".toList

/-- The message of a round that is the last. -/
def stopLines (f : Findings) (earlier : List Int) : List Text :=
  match f.stop? earlier with
  | none => []
  | some s => [[], s.message]

/-- All lines of the round, table by table; a table that cannot be written ends the round. -/
def lines (f : Findings) (earlier : List Int) : Except Reading.Fault (List Text) := do
  let files ← Tables.coverage f.figures (← f.figures.readFiles)
  let failures ← f.figures.readFailures
  let shares ← Tables.shares f.timing
  .ok (files ++ Tables.failures failures ++ shares ++
    (if f.judged.isEmpty then [] else Tables.modified f.modified) ++
    Tables.selfCheck f.judged ++ [[], f.closing] ++ f.stopLines earlier)

end Findings

/-! ## The round -/

namespace Round

/-- The outcome of a round without a coverage measurement. -/
def uncovered (stdout stderr : Text) (code : Int) : Outcome :=
  { stdout := Tables.unlines
      ["coverage measurement failed (exit ".toList ++ intText code ++ [')'], stdout]
    stderr
    exit := some (if code = 0 then 1 else code) }

/-- Reads what a runner wrote, if there is such a runner. -/
def consult {α : Type} (file : Option Text) (runner : String)
    (read : Json → α × Option Reading.Fault) (nothing : α) (child : Child) :
    Except RoundFault (Reading.Result α) :=
  match file, child with
  | none, _ => .ok ⟨nothing, []⟩
  | some _, .failed f =>
    if f.fatal then .error (.stopped f) else .ok (Reading.ofChild runner read nothing child)
  | some _, _ => .ok (Reading.ofChild runner read nothing child)

/-- What a round finds out from a coverage report and its runners, and what it writes about them. -/
def survey (c : Conditions) (report stderr : Text) : Except RoundFault (Findings × Text) := do
  let parsed ← (Json.parse report).mapError fun r => .report (.unreadable report r)
  let figures ← (Figures.read parsed).mapError .report
  let timing ← consult c.files.timeRunner "repotime" ShareReport.read .empty c.children.timeShares
  let modified ← (modifiedFiles c.children.status).mapError .stopped
  let judged ← consult c.files.checkRunner "semcheck" (Judged.ofReport !modified.isEmpty) []
    c.children.selfCheck
  let findings : Findings :=
    { number := Log.nextRound (c.files.log.getD [])
      benches := (c.files.benches.map BenchCount.ofSource).getD 0
      figures
      timing := timing.found
      modified
      judged := judged.found
      elapsed := c.elapsed }
  .ok (findings, stderr ++ timing.stderr ++ judged.stderr)

/-- The end of a round that has found something: first it continues the log, then it writes. -/
def concluded (c : Conditions) (f : Findings) (stderr : Text) : Ending :=
  let history := Log.history c.now (c.files.log.getD [])
  { outcome := ((f.lines history.belows).mapError .report).map fun lines =>
      ⟨Tables.unlines lines, stderr, none⟩
    log := f.appended c.now history c.files.log }

/-- A round with a coverage report. -/
def covered (c : Conditions) (report stderr : Text) : Ending :=
  match survey c report stderr with
  | .error fault => ⟨.error fault, c.files.log⟩
  | .ok (findings, stderr) => concluded c findings stderr

/-- A round under given conditions. -/
def run (c : Conditions) : Ending :=
  match c.children.coverage with
  | .failed f => ⟨.error (.stopped f), c.files.log⟩
  | .finished stdout stderr code =>
    match c.files.coverage with
    | some report =>
      if code = 0 then covered c report stderr
      else ⟨.ok (uncovered stdout stderr code), c.files.log⟩
    | none => ⟨.ok (uncovered stdout stderr code), c.files.log⟩

end Round
end Audit
end QueryAlgebra
