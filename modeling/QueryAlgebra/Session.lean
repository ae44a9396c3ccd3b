import QueryAlgebra.Validation

/-!
# Sessions

A session starts with the schema of the shop.  Its steps change the schema or ask
about a query under the schema as it then is.
-/

namespace QueryAlgebra

/-- A step of a session. -/
inductive Step where
  | define (table : String) (columns : List String)
  | addColumn (table column : String)
  | drop (table : String)
  | clear
  | check (query : Text)
  | algebra (query : Text)
  deriving DecidableEq, Repr

/-- What a step answers. -/
inductive Reply where
  /-- The names of all tables after a change. -/
  | tables (names : List String)
  /-- There is no table to change. -/
  | missing (table : String)
  /-- The outcome of checking a query. -/
  | checked (outcome : Query.Outcome)
  /-- The relational algebra of a query. -/
  | algebra (text : Text)
  deriving DecidableEq, Repr

namespace Session

/-- The answer to a change of the schema, which fails if the table is missing. -/
def change (schema : Schema) (table : String) : Option Schema → Schema × Reply
  | some changed => (changed, .tables changed.names)
  | none => (schema, .missing table)

/-- One step: the schema after it and its answer. -/
def step (schema : Schema) : Step → Schema × Reply
  | .define table columns => change schema table (some (schema.define table columns))
  | .addColumn table column => change schema table (schema.addColumn? table column)
  | .drop table => change schema table (schema.drop? table)
  | .clear => (.empty, .tables Schema.empty.names)
  | .check query => (schema, .checked (Query.check schema query))
  | .algebra query => (schema, .algebra (Query.algebraText query))

end Session
end QueryAlgebra
