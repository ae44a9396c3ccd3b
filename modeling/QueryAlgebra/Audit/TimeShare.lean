import QueryAlgebra.Audit.SelfCheck
import QueryAlgebra.Sorting

/-!
# Time shares

The share of each bench's time that is spent in the project, and the two places
outside of it that take most.
-/

namespace QueryAlgebra
namespace Audit
namespace TimeShare

/-- The percentage of the time spent in the project, and the hottest places outside. -/
structure Row where
  percent : Binary64
  hot : List (Binary64 × String)

/-- A bench that failed has a negative percentage, and its failure in place of a hot place. -/
def Row.failed (f : Failure) : Row :=
  ⟨.ofInt (-1), [(.zero, f.mark)]⟩

/-- Adds the time of a place to the time of its label. -/
def addTime (label : String) (time : Binary64) (sums : List (String × Binary64)) :
    List (String × Binary64) :=
  Entries.set label (((Entries.get? label sums).getD .zero) + time) sums

/-- The positive times outside the project by label. -/
def outside (p : Profile) : List (String × Binary64) :=
  p.times.foldl
    (fun sums (frame, time) =>
      if !Frame.isProject frame.path && Binary64.zero.lt time then
        addTime (String.ofList (Frame.label frame.path)) time sums
      else sums)
    []

/-- What a total of nothing is taken for: a billionth of a second. -/
def leastTotal : Binary64 :=
  .ofInt 1 / .ofInt 1000000000

/-- A time as a percentage of the total, to one place. -/
def percentOf (p : Profile) (time : Binary64) : Binary64 :=
  let total := if p.total.isZero then leastTotal else p.total
  (Binary64.ofInt 100 * time / total).roundTo 1

/-- The first share is cooler than the second: it is less, or the same with an earlier label. -/
def cooler (a b : Binary64 × String) : Bool :=
  if a.1.eq b.1 then decide (a.2 < b.2) else a.1.lt b.1

/-- The shares from the hottest on. -/
def hottestFirst (shares : List (Binary64 × String)) : List (Binary64 × String) :=
  (Sorting.sort cooler shares.reverse).reverse

/-- The row of a profile. -/
def rowOf (p : Profile) : Row where
  percent := percentOf p (p.timeOf Frame.isProject)
  hot := (hottestFirst ((outside p).map fun (label, time) => (percentOf p time, label))).take 2

/-- The rows of all benches, each run once without parameters. -/
def rows (entries : List Bench) : Except Failure (List (String × Row)) :=
  (Suite.benches entries).mapM fun (b, body) =>
    (Failure.recover Row.failed ((b.run body 0 []).map fun _ => rowOf (b.profile 0))).map
      fun row => (b.name, row)

/-- The rows as JSON. -/
def rowsJson (found : List (String × Row)) : Json :=
  .obj [
    ("repo_time_pct", .obj (found.map fun (name, row) => (name, .float row.percent))),
    ("hot_ext", .obj (found.map fun (name, row) =>
      (name, .arr (row.hot.map fun (share, label) => .arr [.float share, .str label]))))]

/-- The report on a suite, or the failure that ended it. -/
def report : Suite → Except Failure Output
  | .loaded entries => (rows entries).map fun found =>
      ⟨(rowsJson found).render ++ ['\n'], none⟩
  | .unloadable f => if f.fatal then .error f else .ok (.unloadable f)

end TimeShare
end Audit
end QueryAlgebra
