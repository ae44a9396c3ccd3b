import QueryAlgebra.Algebra
import QueryAlgebra.Schema

/-!
# Validation

A query is checked against a schema in stages: its shape, its tables, its
columns.  The first stage with something to report ends the check, so all
reported faults are of one kind.
-/

namespace QueryAlgebra
namespace Query

/-- What is wrong with a query. -/
inductive Fault where
  /-- The query lacks `select` or `from`. -/
  | malformed
  /-- No table follows `from` or `join`. -/
  | noTable
  /-- The schema has no such table. -/
  | unknownTable (name : String)
  /-- The projection cannot be read. -/
  | noProjection
  /-- None of the tables of the query has such a column. -/
  | unknownColumn (column : String) (tables : List String)
  deriving DecidableEq, Repr

/-- The wording of a fault. -/
def Fault.message : Fault → String
  | malformed => "Erro de sintaxe: A consulta deve conter SELECT e FROM."
  | noTable => "Erro: Nenhuma tabela encontrada na cláusula FROM/JOIN."
  | unknownTable name => "Erro: Tabela '" ++ name ++ "' não existe no esquema."
  | noProjection => "Erro: Não foi possível extrair colunas da cláusula SELECT."
  | unknownColumn column tables =>
    "Erro: Coluna '" ++ column ++ "' não encontrada em nenhuma das tabelas especificadas ("
      ++ ", ".intercalate tables ++ ")."

/-- The tables that a query mentions after `from` and `join`, in ascending order. -/
def mentioned (s : Text) : List String :=
  Names.ascending (((Clause.source s).toList ++ Clause.joined s).map String.ofList)

/-- The column names of a projection: what follows the last dot of each item, without stars. -/
def columnNames (columns : Text) : List String :=
  ((Text.pieces ',' columns).map fun item => Text.trim (Text.afterLast '.' item)).filter
    (· != ['*']) |>.map String.ofList

/-- The outcome of a check: whether the query passed it, and the faults that were found. -/
structure Outcome where
  valid : Bool
  faults : List Fault
  deriving DecidableEq, Repr

/-- The columns of a projection that none of the tables has. -/
def missingColumns (schema : Schema) (tables : List String) (columns : Text) : List String :=
  (columnNames columns).filter fun column =>
    !tables.any fun table => schema.hasColumn table column

/-- Checks a query in small letters. -/
def outcomeOf (schema : Schema) (s : Text) : Outcome :=
  if !Clause.wellFormed s then ⟨false, [.malformed]⟩
  else
    let tables := mentioned s
    if tables.isEmpty then ⟨false, [.noTable]⟩
    else
      match tables.filter (fun t => !schema.has t) with
      | [] =>
        match Clause.projection s with
        | none => ⟨false, [.noProjection]⟩
        | some columns =>
          match missingColumns schema tables columns with
          | [] => ⟨true, []⟩
          | unknown => ⟨false, unknown.map (.unknownColumn · tables)⟩
      | unknown => ⟨false, unknown.map .unknownTable⟩

/-- Checks a query, read without regard to case. -/
def check (schema : Schema) (query : Text) : Outcome :=
  outcomeOf schema (Text.lower query)

/-- The faults of a query in small letters. -/
def faultsOf (schema : Schema) (s : Text) : List Fault :=
  (outcomeOf schema s).faults

/-- The faults of a query. -/
def faults (schema : Schema) (query : Text) : List Fault :=
  faultsOf schema (Text.lower query)

/-- The query passes the check. -/
def isValid (schema : Schema) (query : Text) : Bool :=
  (check schema query).valid

end Query
end QueryAlgebra
