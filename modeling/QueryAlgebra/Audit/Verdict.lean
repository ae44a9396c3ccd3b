import QueryAlgebra.Audit.Reading
import QueryAlgebra.Sorting

/-!
# Verdicts

What the self-check of a bench says about it.
-/

namespace QueryAlgebra
namespace Audit

/-- A verdict on a bench. -/
inductive Verdict where
  | projectModified
  | failed
  | returnsNothing
  | unstable
  | returnsInput
  | littleProjectTime
  | tooFast
  | sameForAllParameters
  | withoutParameters
  | good
  deriving DecidableEq, Repr

namespace Verdict

/-- The word for a verdict. -/
def word : Verdict → String
  | projectModified => "repo-modified"
  | failed => "error"
  | returnsNothing => "returns-none"
  | unstable => "unstable"
  | returnsInput => "returns-input"
  | littleProjectTime => "low-repo-time"
  | tooFast => "too-fast"
  | sameForAllParameters => "param-invariant"
  | withoutParameters => "ok-unparam"
  | good => "ok"

/-- The bench checks itself. -/
def isGood : Verdict → Bool
  | withoutParameters => true
  | good => true
  | _ => false

end Verdict

/-! ## Numbers of a list -/

namespace Numbers

/-- The smallest of a list of numbers. -/
def least? : List Binary64 → Option Binary64
  | [] => none
  | x :: rest => some (rest.foldl (fun least y => if y.lt least then y else least) x)

/-- The middle of a list of numbers, or the mean of the two in the middle. -/
def median? (xs : List Binary64) : Option Binary64 :=
  let ordered := Sorting.sort Binary64.lt xs
  let half := ordered.length / 2
  if ordered.length % 2 = 1 then ordered[half]?
  else
    match ordered[half - 1]?, ordered[half]? with
    | some a, some b => some ((a + b) / .ofInt 2)
    | _, _ => none

end Numbers

/-! ## Observations -/

/-- What a self-check reported about a bench; the fingerprints of runs are read when they matter. -/
structure Observation where
  returned : Text
  repeats : Json
  byParameter : Json
  milliseconds : List Binary64
  shares : List Binary64
  compiledShares : List Binary64
  parameterPrints : List Json

namespace Observation

/-- The text for what a bench returned; a question mark if nothing is known of it. -/
def returnedText (found : Json) : Text :=
  if found.isEmpty then ['?'] else found.readable

/-- The items of a part of a row, each once; an empty part has none. -/
def distinctItems (found : Json) : Except Reading.Fault (List Json) :=
  if found.isEmpty then .ok []
  else
    match Reading.items? found with
    | none => .error (.noItems found)
    | some items => Reading.distinct items

/-- Reads the row of a bench: first the parts, then the numbers in them. -/
def read (row : List (String × Json)) : Except Reading.Fault Observation := do
  let part (key : String) : Json := (Json.field? key row).getD .null
  let times ← Reading.fields "values" (part "repo_tt_ms")
  let shares ← Reading.fields "values" (part "repo_frac")
  let compiled ← Reading.fields "values" (part "ext_frac")
  let parameterPrints ← distinctItems (part "param_fps")
  let milliseconds ← Reading.numbers times
  let projectShares ← Reading.numbers shares
  let compiledShares ← Reading.numbers compiled
  .ok {
    returned := returnedText (part "ret_type")
    repeats := part "fp_stable"
    byParameter := part "fp_by_param"
    milliseconds := milliseconds.map Prod.snd
    shares := projectShares.map Prod.snd
    compiledShares := compiledShares.map Prod.snd
    parameterPrints }

/-- The row stands for a failure. -/
def isFailure (o : Observation) : Bool :=
  o.returned == ['?'] || o.returned.head? == some '<'

/-- The results of the repeated runs are not all one and the same. -/
def isUnstable (o : Observation) : Except Reading.Fault Bool :=
  (distinctItems o.repeats).map fun results => results.length != 1

/-- The result is one of the parameters. -/
def isInput (o : Observation) : Except Reading.Fault Bool :=
  (Reading.itemAt 0 o.repeats).map fun first => o.parameterPrints.any first.same

/-- The smallest share of the project in the time. -/
def share? (o : Observation) : Option Binary64 :=
  Numbers.least? o.shares

/-- The median time of the project. -/
def time? (o : Observation) : Option Binary64 :=
  Numbers.median? o.milliseconds

/-- The results for several settings are all the same. -/
def isSame (o : Observation) : Except Reading.Fault Bool := do
  let found ← Reading.fields "values" o.byParameter
  let results ← Reading.distinct (found.map Prod.snd)
  .ok (results.length == 1)

/-- A share below this is too little. -/
def leastShare : Binary64 :=
  .ofInt 1 / .ofInt 2

/-- A time below this, in milliseconds, is too fast. -/
def leastTime : Binary64 :=
  .ofInt 1

/-- The verdict on the results for the settings of a bench. -/
def verdictOnSettings (o : Observation) : Except Reading.Fault Verdict := do
  if (← Reading.length o.byParameter) < 2 then .ok .withoutParameters
  else if ← o.isSame then .ok .sameForAllParameters
  else .ok .good

/-- The verdict on the results of a bench. -/
def verdictOnResults (o : Observation) : Except Reading.Fault Verdict := do
  if ← o.isUnstable then .ok .unstable
  else if ← o.isInput then .ok .returnsInput
  else if o.share?.any fun x => x.lt leastShare then .ok .littleProjectTime
  else if o.time?.any fun x => x.lt leastTime then .ok .tooFast
  else o.verdictOnSettings

/-- The name of the type of what returns nothing. -/
def nothingName : Text :=
  "NoneType".toList

/--
The verdict on an observation in a project that is or is not modified.  What does
not matter for it is not looked at.
-/
def verdict (modified : Bool) (o : Observation) : Except Reading.Fault Verdict := do
  if modified then .ok .projectModified
  else if o.isFailure then .ok .failed
  else if o.returned = nothingName then .ok .returnsNothing
  else o.verdictOnResults

end Observation

/-! ## Judgements -/

/-- A bench with what was observed of it and the verdict on it. -/
structure Judged where
  name : String
  observed : Observation
  verdict : Verdict

namespace Judged

/-- Judges the row of a bench. -/
def ofRow (modified : Bool) (name : String) (row : List (String × Json)) :
    Except Reading.Fault Judged := do
  let o ← Observation.read row
  .ok ⟨name, o, ← o.verdict modified⟩

/-- Judges rows up to the first fault; what is no object is passed over. -/
def ofRows (modified : Bool) : List (String × Json) → List Judged × Option Reading.Fault
  | [] => ([], none)
  | (name, .obj row) :: rest =>
    match ofRow modified name row with
    | .error fault => ([], some fault)
    | .ok j =>
      let (more, fault) := ofRows modified rest
      (j :: more, fault)
  | _ :: rest => ofRows modified rest

/-- Judges the report of a self-check up to the first fault. -/
def ofReport (modified : Bool) (report : Json) : List Judged × Option Reading.Fault :=
  match (Reading.field "semcheck" report).bind (Reading.fields "items") with
  | .error fault => ([], some fault)
  | .ok rows => ofRows modified rows

end Judged
end Audit
end QueryAlgebra
