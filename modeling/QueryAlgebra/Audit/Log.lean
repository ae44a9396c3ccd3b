import QueryAlgebra.Audit.Reading
import QueryAlgebra.Json.Printer

/-!
# The log of rounds

Each round appends one line to a log.  Earlier lines tell how many rounds there
were, when the last was, and whether the audit has reached a plateau.  The last
line is read first, for its time, and then all lines in their order.
-/

namespace QueryAlgebra
namespace Audit

/-- The coverage from which on a round can be the last. -/
def enoughCoverage : Binary64 :=
  .ofInt 60

namespace Log

/-- What a line of the log tells; what is missing is null. -/
structure Entry where
  time : Json
  coverage : Json
  below : Option Int

/-- The lines of a log that are not blank. -/
def lines (log : Text) : List Text :=
  (Text.pieces '\n' (Text.unified log)).filter fun line => !(Text.trim line).isEmpty

/-- The number of the next round. -/
def nextRound (log : Text) : Nat :=
  (lines log).length + 1

/-- A whole number; truth values count as zero and one. -/
def wholeNumber? : Json → Option Int
  | .int n => some n
  | .bool b => some (if b then 1 else 0)
  | _ => none

/-- Reads a line of the log. -/
def Entry.ofLine? (line : Text) : Option Entry :=
  match Json.parse line with
  | .ok (.obj fields) =>
    some {
      time := (Json.field? "ts" fields).getD .null
      coverage := (Json.field? "coverage_pct" fields).getD .null
      below := (Json.field? "n_below_repo_time" fields).bind wholeNumber? }
  | _ => none

/--
The time since an entry, to two places.  It is zero for an entry without a time, and there
is none if the time of the entry is no number.
-/
def Entry.since? (now : Binary64) (e : Entry) : Option Binary64 :=
  if e.time.isEmpty then some .zero
  else (Reading.shown e.time).toOption.map fun x => (now - x).roundTo 2

/-- The coverage of an entry was enough; there is no answer if it is no number. -/
def Entry.isEnough? (e : Entry) : Option Bool :=
  if e.coverage.isEmpty then some false else e.coverage.number?.map enoughCoverage.le

/--
The numbers of benches with little project time in the lines up to the first one that
cannot be read, and whether there is no such line.  The coverage is read of the lines up
to the first one in which it was enough.
-/
def belows : Bool → List Text → List Int × Bool
  | _, [] => ([], true)
  | enough, line :: rest =>
    match Entry.ofLine? line with
    | none => ([], false)
    | some e =>
      match if enough then some true else e.isEnough? with
      | none => (e.below.toList, false)
      | some enough =>
        let (more, readable) := belows enough rest
        (e.below.toList ++ more, readable)

/-- What the log tells about earlier rounds. -/
structure History where
  /-- The numbers of benches with little project time. -/
  belows : List Int
  /-- The time since the last round, if the log can be continued. -/
  sinceLast : Option Binary64

/-- The history of a log.  If the last line cannot be read, no other line is. -/
def history (now : Binary64) (log : Text) : History :=
  match (lines log).getLast? with
  | none => ⟨[], some .zero⟩
  | some line =>
    match Entry.ofLine? line with
    | none => ⟨[], none⟩
    | some last =>
      let (found, readable) := belows false (lines log)
      ⟨found, if readable then last.since? now else none⟩

end Log

/-! ## Plateaus -/

/-- The best value of a sequence so far and the number of rounds since it was first reached. -/
structure Plateau where
  best : Int
  age : Nat
  deriving DecidableEq, Repr

namespace Plateau

/-- One more round. -/
def step (p : Option Plateau) (value : Int) : Option Plateau :=
  match p with
  | none => some ⟨value, 0⟩
  | some p => if value < p.best then some ⟨value, 0⟩ else some ⟨p.best, p.age + 1⟩

/-- The plateau of a sequence of rounds. -/
def of? (values : List Int) : Option Plateau :=
  values.foldl step none

/-- The number of rounds without improvement after which the audit stops. -/
def patience : Nat :=
  3

end Plateau
end Audit
end QueryAlgebra
