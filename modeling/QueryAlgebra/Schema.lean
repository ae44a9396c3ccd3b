/-!
# Schemas

A schema lists tables with their columns.  A table name occurs once; the
operations change the table of a name, add one, or remove it.
-/

namespace QueryAlgebra

/-- A table and its columns. -/
structure Table where
  name : String
  columns : List String
  deriving DecidableEq, Repr

/-- The first column of a table, by which its rows are known. -/
def Table.key (t : Table) : String :=
  t.columns.headD ""

/-- The columns of a table with the name of the table before them. -/
def Table.qualifiedColumns (t : Table) : List String :=
  t.columns.map fun column => t.name ++ "." ++ column

/-- Tables in the order in which they were defined. -/
structure Schema where
  tables : List Table
  deriving DecidableEq, Repr

namespace Schema

/-- The columns of a table. -/
def columns? (schema : Schema) (name : String) : Option (List String) :=
  (schema.tables.find? (·.name == name)).map (·.columns)

/-- The schema has a table of this name. -/
def has (schema : Schema) (name : String) : Bool :=
  (schema.columns? name).isSome

/-- The table has a column of this name. -/
def hasColumn (schema : Schema) (table column : String) : Bool :=
  ((schema.columns? table).getD []).contains column

/-- The schema without tables. -/
def empty : Schema :=
  ⟨[]⟩

/-- Sets the columns of a table, which is added at the end if it is new. -/
def define (schema : Schema) (name : String) (columns : List String) : Schema :=
  if schema.has name then
    ⟨schema.tables.map fun t => if t.name == name then ⟨name, columns⟩ else t⟩
  else ⟨schema.tables ++ [⟨name, columns⟩]⟩

/-- Adds a column at the end of a table, if there is such a table. -/
def addColumn? (schema : Schema) (name column : String) : Option Schema :=
  (schema.columns? name).map fun columns => schema.define name (columns ++ [column])

/-- Removes a table, if there is such a table. -/
def drop? (schema : Schema) (name : String) : Option Schema :=
  if schema.has name then some ⟨schema.tables.filter (·.name != name)⟩ else none

/-- The schema of a shop: customers, products, orders, their items, and suppliers. -/
def shop : Schema where
  tables := [
    ⟨"cliente", ["idcliente", "nome", "email", "telefone", "endereco"]⟩,
    ⟨"produto", ["idproduto", "nomeproduto", "descricao", "preco", "estoque"]⟩,
    ⟨"pedido", ["idpedido", "idcliente", "datapedido", "valortotalpedido", "status"]⟩,
    ⟨"itempedido", ["iditempedido", "idpedido", "idproduto", "quantidade", "precounitario"]⟩,
    ⟨"fornecedor", ["idfornecedor", "nomefornecedor", "contato", "endereco"]⟩,
    ⟨"produtofornecedor", ["idproduto", "idfornecedor", "custo"]⟩]

end Schema

/-! ## Ascending lists of names -/

namespace Names

/-- Puts a name into an ascending list in which it may already stand. -/
def insert (name : String) : List String → List String
  | [] => [name]
  | other :: rest =>
    if name < other then name :: other :: rest
    else if name = other then other :: rest
    else other :: insert name rest

/-- The names of a list in ascending order by code points, each once. -/
def ascending (names : List String) : List String :=
  names.foldr insert []

end Names

namespace Schema

/-- The names of all tables in ascending order. -/
def names (schema : Schema) : List String :=
  Names.ascending (schema.tables.map (·.name))

end Schema
end QueryAlgebra
