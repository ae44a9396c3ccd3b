import QueryAlgebra.Dialogue
import QueryAlgebra.Value.Basic
import QueryAlgebra.Workload.Queries

/-!
# Runs over generated queries

The relational algebra and the faults of the generated queries, and these results as
values whose fingerprints can be taken.
-/

namespace QueryAlgebra
namespace Workload

/-- The outcome of a check: whether the query is valid, and the messages of its faults. -/
structure Outcome where
  valid : Bool
  messages : List String
  deriving DecidableEq, Repr

/-- The outcome of a check with the messages of the faults. -/
def Outcome.ofCheck (o : Query.Outcome) : Outcome :=
  ⟨o.valid, o.faults.map Query.Fault.message⟩

/-- The outcome of checking a query against the shop. -/
def outcome (query : Text) : Outcome :=
  .ofCheck (Query.check .shop query)

/-- The relational algebra of a query with many joins and of two small ones. -/
def algebras (n : Int) : List Text :=
  [Query.algebraText (manyJoins n), Query.algebraText "FROM cliente".toList,
    Query.algebraText "SELECT * FROM cliente".toList]

/-- The outcomes for a wide query without and with columns that do not exist. -/
def wideOutcomes (n : Int) : Outcome × Outcome :=
  (outcome (wideSelect n 0), outcome (wideSelect n (max 1 (n / 8))))

/-- The outcomes for one query of each kind of fault, and for one without. -/
def faultOutcomes (n : Int) : List Outcome :=
  [withoutSelect, withoutTable, unknownTables n, unknownColumns n, wideSelect n 0].map outcome

/-- What a dialogue finds out about a query of the shop. -/
def dialogue (query : Text) : Outcome × Option Text :=
  let found := Dialogue.finding .shop query
  (.ofCheck found.outcome, found.algebra)

/-- A dialogue about joined tables and one about columns that do not exist. -/
def dialogues (n : Int) : List (Outcome × Option Text) :=
  [dialogue (joinedColumns n), dialogue falseColumns]

/-! ## Results as values -/

/-- The messages of an outcome as a value. -/
def Outcome.messageValue (o : Outcome) : Value :=
  .tuple (o.messages.map fun m => .text m.toList)

/-- The result of writing queries in relational algebra. -/
def algebrasValue (n : Int) : Value :=
  .list ((algebras n).map .text)

/-- The result of checking wide queries. -/
def wideValue (n : Int) : Value :=
  let (good, bad) := wideOutcomes n
  .tuple [.bool good.valid, good.messageValue, .bool bad.valid, bad.messageValue]

/-- The result of checking queries with faults. -/
def faultsValue (n : Int) : Value :=
  .list ((faultOutcomes n).map fun o => .tuple [.bool o.valid, o.messageValue])

/-- The result of the dialogues. -/
def dialoguesValue (n : Int) : Value :=
  .list ((dialogues n).map fun (o, algebra) =>
    .tuple [.bool o.valid, (algebra.map Value.text).getD .none, o.messageValue])

end Workload
end QueryAlgebra
