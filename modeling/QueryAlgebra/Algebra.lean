import QueryAlgebra.Text.LowerCase
import QueryAlgebra.Query.Clause

/-!
# Relational algebra

Expressions of relational algebra over named relations, their written form, and
the expression that a query stands for: the joins from left to right onto the
source table, then the selection, then the projection.
-/

namespace QueryAlgebra

/-- An expression of relational algebra. -/
inductive Algebra where
  /-- A named relation. -/
  | relation (name : Text)
  /-- The rows of a product that satisfy a condition. -/
  | thetaJoin (left : Algebra) (condition : Text) (right : Text)
  /-- All pairs of rows. -/
  | product (left : Algebra) (right : Text)
  /-- The rows that satisfy a condition. -/
  | selection (condition : Text) (rows : Algebra)
  /-- The listed columns of all rows. -/
  | projection (columns : Text) (rows : Algebra)
  deriving DecidableEq, Repr

namespace Algebra

/-- What stands between the left side of a join and its condition. -/
def joinMark : Text :=
  [' ', '\\', 'b', 'o', 'w', 't', 'i', 'e', '_', '\x7b']

/-- What stands between the two sides of a product. -/
def productMark : Text :=
  [' ', '\\', 't', 'i', 'm', 'e', 's', ' ']

/-- What stands before the condition of a selection. -/
def selectionMark : Text :=
  ['\\', 's', 'i', 'g', 'm', 'a', '_', '\x7b']

/-- What stands before the columns of a projection. -/
def projectionMark : Text :=
  ['\\', 'p', 'i', '_', '\x7b']

/-- The written form of an expression. -/
def render : Algebra → Text
  | relation name => name
  | thetaJoin left condition right =>
    ['('] ++ left.render ++ joinMark ++ condition ++ ['\x7d', ' '] ++ right ++ [')']
  | product left right =>
    ['('] ++ left.render ++ productMark ++ right ++ [')']
  | selection condition rows =>
    selectionMark ++ condition ++ ['\x7d', '('] ++ rows.render ++ [')']
  | projection columns rows =>
    projectionMark ++ columns ++ ['\x7d', '('] ++ rows.render ++ [')']

/-- An expression joined with one more table: on its condition, or without one as a product. -/
def attach (left : Algebra) (j : Clause.Join) : Algebra :=
  if j.condition.isEmpty then product left j.table
  else thetaJoin left (Text.trim j.condition) j.table

end Algebra

namespace Query

/-- What the clauses of a query say. -/
structure Parts where
  /-- The projected columns as they are written. -/
  columns : Text
  /-- The table of the source clause, empty if there is none. -/
  base : Text
  /-- The joined tables from left to right. -/
  joins : List Clause.Join
  /-- The condition of the selection, empty if there is none. -/
  condition : Text
  deriving DecidableEq, Repr

/-- The parts of a query in small letters.  Without a projection all columns are meant. -/
def Parts.ofText (s : Text) : Parts where
  columns := ((Clause.projection s).map Text.trim).getD ['*']
  base := (Clause.source s).getD []
  joins := Clause.joins s
  condition := ((Clause.condition s).map Text.trim).getD []

/-- The source table with all joined tables. -/
def Parts.joined (p : Parts) : Algebra :=
  p.joins.foldl Algebra.attach (.relation p.base)

/-- The rows of a query before its projection. -/
def Parts.rows (p : Parts) : Algebra :=
  if p.condition.isEmpty then p.joined else .selection p.condition p.joined

/-- The expression that a query stands for. -/
def Parts.algebra (p : Parts) : Algebra :=
  .projection p.columns p.rows

/-- The parts of a query, read without regard to case. -/
def parts (query : Text) : Parts :=
  Parts.ofText (Text.lower query)

/-- The written relational algebra of a query. -/
def algebraText (query : Text) : Text :=
  (parts query).algebra.render

end Query
end QueryAlgebra
