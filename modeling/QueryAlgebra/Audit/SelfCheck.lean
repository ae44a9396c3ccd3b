import QueryAlgebra.Audit.Bench
import QueryAlgebra.Fingerprint
import QueryAlgebra.Json.Printer
import QueryAlgebra.Sorting
import QueryAlgebra.Value.Shown

/-!
# Self-check

Runs each bench twice without parameters and once for each of its settings, and
reports the fingerprints of the results and where the time was spent.  A failure ends
the runs of its bench; what was found out before it is reported.
-/

namespace QueryAlgebra
namespace Audit

/-- What a report writes, and the code with which the program ends early. -/
structure Output where
  stdout : Text
  exit : Option Int

/-- The report that the benches could not be loaded. -/
def Output.unloadable (f : Failure) : Output :=
  ⟨(Json.obj [("_import_error", .str f.text)]).render ++ ['\n'], some 0⟩

namespace SelfCheck

/-- What is known of a bench. -/
structure Row where
  returned : String
  repeats : List Text
  byParameter : List (String × Text)
  milliseconds : List (String × Binary64)
  projectShare : List (String × Binary64)
  compiledShare : List (String × Binary64)
  parameterPrints : List Text

namespace Row

/-- The row of a bench of which nothing is known. -/
def blank : Row :=
  ⟨"?", [], [], [], [], [], []⟩

/-- The time of the project in milliseconds, to three places. -/
def millisecondsOf (p : Profile) : Binary64 :=
  (Binary64.ofInt 1000 * p.timeOf Frame.isProject).roundTo 3

/-- The share of the chosen places in the total time, to three places. -/
def shareOf (p : Profile) (chosen : Text → Bool) : Binary64 :=
  (p.portion (.ofInt 1) (p.timeOf chosen)).roundTo 3

/-- Places outside the project that are built in or compiled. -/
def isOutside (path : Text) : Bool :=
  !Frame.isProject path && Frame.isCompiled path

/-- Adds the profile of a run under its tag. -/
def addProfile (tag : String) (p : Profile) (row : Row) : Row :=
  { row with
    milliseconds := Entries.set tag (millisecondsOf p) row.milliseconds
    projectShare := Entries.set tag (shareOf p Frame.isProject) row.projectShare
    compiledShare := Entries.set tag (shareOf p isOutside) row.compiledShare }

/-- Adds the fingerprint of a run without parameters. -/
def addRepeat (print : Text) (row : Row) : Row :=
  { row with repeats := row.repeats ++ [print] }

/-- Adds the fingerprint of a run with parameters under its tag. -/
def addResult (tag : String) (print : Text) (row : Row) : Row :=
  { row with byParameter := Entries.set tag print row.byParameter }

/-- Adds the fingerprints of parameters. -/
def addParameters (prints : List Text) (row : Row) : Row :=
  { row with parameterPrints := row.parameterPrints ++ prints }

/-- Marks the row of a bench that failed. -/
def markFailed (f : Failure) (row : Row) : Row :=
  { row with returned := f.mark }

/-- The row as JSON. -/
def toJson (row : Row) : Json :=
  let text (s : Text) : Json := .str (String.ofList s)
  let numbers (entries : List (String × Binary64)) : Json :=
    .obj (entries.map fun (tag, x) => (tag, .float x))
  .obj [
    ("ret_type", .str row.returned),
    ("fp_stable", .arr (row.repeats.map text)),
    ("fp_by_param", .obj (row.byParameter.map fun (tag, s) => (tag, text s))),
    ("repo_tt_ms", numbers row.milliseconds),
    ("repo_frac", numbers row.projectShare),
    ("ext_frac", numbers row.compiledShare),
    ("param_fps", .arr (row.parameterPrints.map text))]

end Row

/-- The tag of the run without parameters. -/
def defaultTag : String :=
  "<default>"

/-- The tag of a run with parameters of which there are none. -/
def emptyTag : String :=
  "-"

/-- The tag of a run with parameters: their names and values by ascending name. -/
def tag (setting : Setting) : String :=
  if setting.isEmpty then emptyTag
  else
    let ordered := Sorting.sort (fun a b => decide (a.1 < b.1)) setting
    String.ofList
      (Text.join [','] (ordered.map fun (name, v) => name.toList ++ '=' :: v.readable))

/-- The fingerprint of a value, or the failure to take it. -/
def printOf (v : Value) : Except Failure Text :=
  match fingerprint v with
  | .ok print => .ok print
  | .error fault => .error ⟨fault.kind, fault.message, false⟩

/-- Runs a bench and takes the fingerprint of the result. -/
def observe (b : Bench) (body : Body) (earlier : Nat) (setting : Setting) :
    Except Failure (Value × Text) :=
  (b.run body earlier setting).bind fun v => (printOf v).map fun print => (v, print)

/--
Runs a bench with its settings one after another, after a number of earlier runs, up to
the first failure.
-/
def settingRuns (b : Bench) (body : Body) : Nat → List Setting → Row → Row × Option Failure
  | _, [], row => (row, none)
  | earlier, setting :: more, row =>
    match observe b body earlier setting with
    | .error f => (row, some f)
    | .ok (_, print) =>
      let row :=
        (row.addProfile (tag setting) (b.profile (earlier - 1))).addResult (tag setting) print
      match setting.mapM fun (_, value) => printOf value with
      | .error f => (row, some f)
      | .ok prints => settingRuns b body (earlier + 1) more (row.addParameters prints)

/--
What the runs of a bench show up to the first failure.  The repetition without parameters
is not profiled.
-/
def runs (b : Bench) (body : Body) : Row × Option Failure :=
  match observe b body 0 [] with
  | .error f => (.blank, some f)
  | .ok (first, print) =>
    let row := (({ Row.blank with returned := first.typeName } : Row).addRepeat print).addProfile
      defaultTag (b.profile 0)
    match observe b body 1 [] with
    | .error f => (row, some f)
    | .ok (_, again) => settingRuns b body 2 b.settings (row.addRepeat again)

/-- The row of a bench, marked if it failed. -/
def rowOf (b : Bench) (body : Body) : Except Failure Row :=
  match runs b body with
  | (row, none) => .ok row
  | (row, some f) => if f.fatal then .error f else .ok (row.markFailed f)

/-- The rows of all benches. -/
def rows (entries : List Bench) : Except Failure (List (String × Row)) :=
  (Suite.benches entries).mapM fun (b, body) =>
    (rowOf b body).map fun row => (b.name, row)

/-- The report on a suite, or the failure that ended it. -/
def report : Suite → Except Failure Output
  | .loaded entries => (rows entries).map fun found =>
      let fields := found.map fun (name, row) => (name, row.toJson)
      ⟨(Json.obj [("semcheck", .obj fields)]).render ++ ['\n'], none⟩
  | .unloadable f => if f.fatal then .error f else .ok (.unloadable f)

end SelfCheck
end Audit
end QueryAlgebra
