import QueryAlgebra.Audit.Reading
import QueryAlgebra.Audit.SelfCheck

/-!
# Coverage reports

Runs the benches once under a coverage measurement and notes in its report which
of them failed and how many there are.
-/

namespace QueryAlgebra
namespace Audit
namespace Coverage

/-- Why no report, or no summary of it, could be given. -/
inductive Fault where
  /-- A fatal failure of a bench or of loading the benches. -/
  | stopped (f : Failure)
  /-- The report is no JSON text. -/
  | unreadable (whole : Text) (r : Json.Refusal)
  /-- The report is JSON, but no object. -/
  | noObject (found : Json)
  /-- The notes of the report are no object. -/
  | noNotes (found : Json)
  /-- A field is missing. -/
  | missing (key : String)
  /-- Fields are looked up in what is no object. -/
  | noFields (found : Json)
  /-- A percentage cannot be shown. -/
  | noPercentage (fault : Reading.Fault)

/-- The number of benches, and the failures by the names of the benches. -/
structure Tally where
  failures : List (String × String)
  count : Nat
  deriving DecidableEq, Repr

/-- The failure of one run without parameters, if it fails. -/
def failureOf (b : Bench) (body : Body) : Except Failure (Option String) :=
  Failure.recover (fun f => some f.text) ((b.run body 0 []).map fun _ => none)

/-- The failures of benches by their names. -/
def failuresOf : List (Bench × Body) → Except Failure (List (String × String))
  | [] => .ok []
  | (b, body) :: rest =>
    (failureOf b body).bind fun found =>
      (failuresOf rest).map fun more => (found.map (b.name, ·)).toList ++ more

/-- Runs every bench of a suite once. -/
def tally : Suite → Except Failure Tally
  | .loaded entries =>
    (failuresOf (Suite.benches entries)).map fun failures =>
      ⟨failures, (Suite.benches entries).length⟩
  | .unloadable f => if f.fatal then .error f else .ok ⟨[("<import>", f.text)], 0⟩

/-- The field of a report that holds notes. -/
def notesKey : String :=
  "meta"

/-- The note of failures. -/
def failuresKey : String :=
  "_pti_bench_errors"

/-- The note of the number of benches. -/
def countKey : String :=
  "_pti_n_benches"

/-- The fields of a report's notes; a report without notes has none. -/
def notes (fields : List (String × Json)) : Except Fault (List (String × Json)) :=
  match Json.field? notesKey fields with
  | none => .ok []
  | some (.obj found) => .ok found
  | some other => .error (.noNotes other)

/-- Adds a tally to the notes of a report and changes nothing else. -/
def annotate (t : Tally) : Json → Except Fault Json
  | .obj fields =>
    (notes fields).map fun found =>
      let failures := Json.obj (t.failures.map fun (name, text) => (name, .str text))
      let added := Json.setField countKey (.int t.count) (Json.setField failuresKey failures found)
      .obj (Json.setField notesKey (.obj added) fields)
  | other => .error (.noObject other)

/-- A field that has to be there. -/
def required (key : String) : Json → Except Fault Json
  | .obj fields =>
    match Json.field? key fields with
    | some value => .ok value
    | none => .error (.missing key)
  | other => .error (.noFields other)

/-- A number with one decimal place. -/
def onePlace (j : Json) : Except Fault Text :=
  match Reading.shown j with
  | .ok x => .ok (x.fixed 1)
  | .error fault => .error (.noPercentage fault)

/-- The line that sums up a report. -/
def summary (t : Tally) (report : Json) : Except Fault Text := do
  let totals ← required "totals" report
  let percent ← onePlace (← required "percent_covered" totals)
  let covered ← required "covered_lines" totals
  let statements ← required "num_statements" totals
  .ok ("coverage: ".toList ++ percent ++ "% (".toList ++ covered.readable ++ ['/'] ++
    statements.readable ++ " stmts, ".toList ++ decimalDigits t.count ++ " benches, ".toList ++
    decimalDigits t.failures.length ++ " errors)\n".toList)

/-- The report as it is written back, and its summary. -/
structure Amended where
  written : Text
  summary : Except Fault Text

/-- Runs the benches of a suite and adds the tally to a report. -/
def amend (suite : Suite) (report : Text) : Except Fault Amended := do
  let t ← (tally suite).mapError .stopped
  let found ← (Json.parse report).mapError (.unreadable report)
  let annotated ← annotate t found
  .ok ⟨annotated.render, summary t annotated⟩

end Coverage
end Audit
end QueryAlgebra
