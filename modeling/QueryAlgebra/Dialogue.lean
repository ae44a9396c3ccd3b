import QueryAlgebra.Validation

/-!
# Dialogue

The dialogue asks for one query, repeats it, and says whether it is valid.  For a
valid query it gives the relational algebra, otherwise the faults.
-/

namespace QueryAlgebra
namespace Dialogue

/-- The question for a query. -/
def prompt : String :=
  "Input SQL Query: "

/-- The first line of a text, where a carriage return alone also ends a line. -/
def firstLine (input : Text) : Text :=
  input.takeWhile fun c => c != '\n' && c != '\r'

/-- What a dialogue finds out about a query: the outcome of its check, and its algebra if valid. -/
structure Finding where
  outcome : Query.Outcome
  algebra : Option Text
  deriving DecidableEq, Repr

/-- Checks a query and writes it in relational algebra if it passes. -/
def finding (schema : Schema) (query : Text) : Finding :=
  let outcome := Query.check schema query
  ⟨outcome, if outcome.valid then some (Query.algebraText query) else none⟩

/-- The words for what was found out. -/
def Finding.text (f : Finding) : String :=
  match f.algebra with
  | some algebra => "Alg: " ++ String.ofList algebra ++ "\nResultado: Consulta SQL válida.\n"
  | none =>
    "Resultado: Consulta SQL inválida.\n" ++
      String.join (f.outcome.faults.map fun fault => "  - " ++ fault.message ++ "\n")

/-- The answer to a query. -/
def answer (schema : Schema) (query : Text) : String :=
  "Consulta: " ++ String.ofList query ++ "\n" ++ (finding schema query).text

/-- What the dialogue writes after its question; nothing is written if the input is at its end. -/
def reply? (input : Text) : Option String :=
  if input.isEmpty then none else some (answer .shop (firstLine input))

end Dialogue
end QueryAlgebra
