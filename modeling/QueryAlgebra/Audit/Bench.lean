import QueryAlgebra.Audit.Failure
import QueryAlgebra.Audit.Frame
import QueryAlgebra.Entries
import QueryAlgebra.Value.Basic

/-!
# Benches

A bench is a named run with settings for its parameters and with the profiles
that are recorded of it.
-/

namespace QueryAlgebra
namespace Audit

/-! ## Profiles -/

/-- A place in a profile. -/
structure Frame where
  path : Text
  line : Int
  function : Text
  deriving DecidableEq, Repr

/-- The time spent in each place, and the total time. -/
structure Profile where
  times : List (Frame × Binary64)
  total : Binary64

namespace Profile

/-- The profile of a run of which nothing was recorded. -/
def empty : Profile :=
  ⟨[], .zero⟩

/-- A profile of rows, of which the last for a place counts. -/
def ofRows (rows : List (Frame × Binary64)) (total : Binary64) : Profile :=
  ⟨Entries.ofList rows, total⟩

/-- The sum of the times of the places whose path is chosen. -/
def timeOf (p : Profile) (chosen : Text → Bool) : Binary64 :=
  p.times.foldl (fun sum (frame, time) => if chosen frame.path then sum + time else sum) .zero

/-- A part of the total time, scaled; nothing if no time was recorded. -/
def portion (p : Profile) (scale time : Binary64) : Binary64 :=
  if Binary64.zero.lt p.total then scale * time / p.total else .zero

end Profile

/-! ## Runs -/

/-- The values of parameters by their names. -/
abbrev Setting := List (String × Value)

/-- What a run does, after a number of earlier runs and with values for its parameters. -/
structure Body where
  run : Nat → Setting → Except Failure Value

namespace Body

/-- Gives a value. -/
def constant (v : Value) : Body :=
  ⟨fun _ _ => .ok v⟩

/-- Gives the parameter `n`, or a value in its place. -/
def echo (v : Value) : Body :=
  ⟨fun _ setting => .ok ((Entries.get? "n" setting).getD v)⟩

/-- Gives the number of runs so far. -/
def count : Body :=
  ⟨fun earlier _ => .ok (.int (earlier + 1))⟩

/-- Fails. -/
def failing (f : Failure) : Body :=
  ⟨fun _ _ => .error f⟩

end Body

/-- An entry of the file of benches; an entry without a body cannot be called. -/
structure Bench where
  name : String
  body : Option Body
  deferred : Bool
  settings : List Setting
  profiles : List Profile

/-- What a call gives: a result, or a run that has yet to be started. -/
inductive Call where
  | finished (v : Value)
  | pending

namespace Bench

/-- Calls a bench.  The run of a deferred bench is not started. -/
def call (b : Bench) (body : Body) (earlier : Nat) (setting : Setting) : Except Failure Call :=
  if b.deferred then .ok .pending else (body.run earlier setting).map .finished

/-- Starts the run that a call left pending. -/
def finish (body : Body) (earlier : Nat) (setting : Setting) : Call → Except Failure Value
  | .finished v => .ok v
  | .pending => body.run earlier setting

/-- Calls a bench and starts its run. -/
def run (b : Bench) (body : Body) (earlier : Nat) (setting : Setting) : Except Failure Value :=
  (b.call body earlier setting).bind (finish body earlier setting)

/-- The profile of a run; the last one recorded stands for all further runs. -/
def profile (b : Bench) (run : Nat) : Profile :=
  (b.profiles[min run (b.profiles.length - 1)]?).getD .empty

/-- The name of a bench starts with this text. -/
def nameStart : Text :=
  "bench_".toList

/-- The body of an entry that is a bench. -/
def body? (b : Bench) : Option Body :=
  if nameStart.isPrefixOf b.name.toList then b.body else none

end Bench

/-! ## Suites -/

/-- The entries of the file of benches, or how loading it failed. -/
inductive Suite where
  | loaded (entries : List Bench)
  | unloadable (f : Failure)

namespace Suite

/-- The entries by ascending name, of which the last of a name counts. -/
def ascending (entries : List Bench) : List Bench :=
  ((Entries.ofList (entries.map fun b => (b.name, b))).map Prod.snd).mergeSort
    fun a b => decide (a.name ≤ b.name)

/-- The benches among the entries, with their bodies, by ascending name. -/
def benches (entries : List Bench) : List (Bench × Body) :=
  (ascending entries).filterMap fun b => b.body?.map fun body => (b, body)

end Suite
end Audit
end QueryAlgebra
