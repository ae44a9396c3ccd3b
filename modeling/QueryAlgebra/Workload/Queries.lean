import QueryAlgebra.Schema
import QueryAlgebra.Number.Decimal

/-!
# Generated queries

Queries over the shop whose size is a parameter: with many joins, with many
projected columns, and with faults.  A negative size counts as zero.
-/

namespace QueryAlgebra
namespace Workload

/-- The tables of the shop, taken cyclically. -/
def tableAt (i : Nat) : Table :=
  Schema.shop.tables.getD (i % Schema.shop.tables.length) ⟨"", []⟩

/-- The table onto which all others are joined. -/
def base : Table :=
  tableAt 0

/-- The columns of all tables of the shop with the names of their tables. -/
def allColumns : List String :=
  Schema.shop.tables.flatMap Table.qualifiedColumns

/-- The columns of all tables of the shop, taken cyclically. -/
def columnAt (i : Nat) : String :=
  allColumns.getD (i % allColumns.length) ""

/-- Texts with a comma and a blank between them. -/
def listed (items : List String) : Text :=
  Text.join [',', ' '] (items.map String.toList)

/-- The first members of a numbered family of names. -/
def numbered (name : String) (count : Nat) : List String :=
  (List.range count).map fun i => name ++ String.ofList (decimalDigits i)

/-! ## Joins -/

/-- A table joined onto the base table, each by its key. -/
def joinClause (i : Nat) : Text :=
  let t := tableAt (i + 1)
  "JOIN ".toList ++ t.name.toList ++ " ON ".toList ++ base.name.toList ++ ['.'] ++
    base.key.toList ++ " = ".toList ++ t.name.toList ++ ['.'] ++ t.key.toList

/-- A number of join clauses. -/
def joinClauses (n : Int) : Text :=
  Text.join [' '] ((List.range n.toNat).map joinClause)

/-- A query that joins a number of tables onto the base table. -/
def manyJoins (n : Int) : Text :=
  "SELECT ".toList ++ listed base.columns ++ " FROM ".toList ++ base.name.toList ++ [' '] ++
    joinClauses n ++ " WHERE ".toList ++ base.name.toList ++ ['.'] ++ base.key.toList ++
    " > 10 ORDER BY ".toList ++ base.key.toList

/-! ## Columns -/

/-- All tables of the shop, joined onto the base table by columns that need not exist. -/
def allTables : Text :=
  base.name.toList ++ Schema.shop.tables.tail.flatMap fun t =>
    " JOIN ".toList ++ t.name.toList ++ " ON ".toList ++ base.name.toList ++ ".x = ".toList ++
      t.name.toList ++ ".y".toList

/-- A query that projects columns of all tables. -/
def projecting (columns : List String) : Text :=
  "SELECT ".toList ++ listed columns ++ " FROM ".toList ++ allTables

/-- The first columns of the shop, taken cyclically. -/
def firstColumns (n : Int) : List String :=
  (List.range n.toNat).map columnAt

/-- A query that projects a number of columns, and a number of columns that do not exist. -/
def wideSelect (n bad : Int) : Text :=
  projecting (firstColumns n ++ numbered "bogus.doesnotexist" bad.toNat)

/-! ## Faults -/

/-- A text that is no query. -/
def withoutSelect : Text :=
  "completely unrelated text".toList

/-- A query without a table name behind `FROM`. -/
def withoutTable : Text :=
  "SELECT x FROM ???".toList

/-- A query over tables that do not exist, joined without a condition. -/
def unknownTables (n : Int) : Text :=
  "SELECT x FROM naoexiste ".toList ++
    Text.join [' '] ((numbered "tabela" n.toNat).map fun name => "JOIN ".toList ++ name.toList)

/-- A query that projects columns that do not exist. -/
def unknownColumns (n : Int) : Text :=
  projecting (numbered "nosuchcol" n.toNat)

/-! ## Dialogues -/

/-- A query that joins a number of tables and projects columns of them. -/
def joinedColumns (n : Int) : Text :=
  "SELECT ".toList ++ listed (firstColumns (max 8 (n / 2))) ++ " FROM ".toList ++
    base.name.toList ++ [' '] ++ joinClauses n ++ " WHERE ".toList ++ base.name.toList ++ ['.'] ++
    base.key.toList ++ " > 0 ORDER BY ".toList ++ base.key.toList

/-- A query that projects two columns that do not exist. -/
def falseColumns : Text :=
  "SELECT falsacoluna, outra FROM ".toList ++ base.name.toList

end Workload
end QueryAlgebra
