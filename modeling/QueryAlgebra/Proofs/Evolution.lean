import QueryAlgebra.Proofs.Agreement

/-!
# Validation under a changing schema

Two runs of the validation of one query are compared, each with a schema of its
own.  Only the tables that the query mentions matter: the other schema may differ
on all other tables, or lack them.

Where it has the mentioned tables with at least the same columns, a valid query
stays valid.  The faults of a query that is not valid need not become fewer, since
a table that is no longer unknown lets the check go on to its columns.  Where both
schemas agree on the mentioned tables, all faults are the same.

Main results:

- Theorem `Schema.ExtendedBy.hasColumn`: known columns of the given tables stay known.
- Theorem `faultsOf_eq_of_agreesOn`: faults depend on the mentioned tables only.
- Theorem `validation_of_evolved`: both comparisons.
-/

namespace QueryAlgebra

/-! ## Two schemas -/

namespace Schema

/--
Each of the given names that is a table of the schema is one of the other schema
too, with at least its columns.
-/
def ExtendedBy (schema other : Schema) (names : List String) : Prop :=
  ∀ name ∈ names, ∀ columns, schema.columns? name = some columns →
    ∃ more, other.columns? name = some more ∧ columns ⊆ more

/-- The two schemas have the same ones of the given tables, each with the same set of columns. -/
def AgreesOn (schema other : Schema) (names : List String) : Prop :=
  ∀ name ∈ names, schema.has name = other.has name ∧
    ∀ column, schema.hasColumn name column = true ↔ other.hasColumn name column = true

variable {schema other : Schema} {names : List String}

/-- An extended schema has the tables it had. -/
theorem ExtendedBy.has (hext : schema.ExtendedBy other names) {name : String}
    (hname : name ∈ names) (hhas : schema.has name = true) : other.has name = true := by
  rw [Schema.has, Option.isSome_iff_exists] at hhas ⊢
  rcases hhas with ⟨columns, hcolumns⟩
  rcases hext name hname columns hcolumns with ⟨more, hmore, -⟩
  exact ⟨more, hmore⟩

/-- Known columns of the given tables stay known. -/
theorem ExtendedBy.hasColumn (hext : schema.ExtendedBy other names) {name column : String}
    (hname : name ∈ names) (hhas : schema.hasColumn name column = true) :
    other.hasColumn name column = true := by
  cases hcolumns : schema.columns? name with
  | none => simp [Schema.hasColumn, hcolumns] at hhas
  | some columns =>
      rcases hext name hname columns hcolumns with ⟨more, hmore, hsubset⟩
      have hmem : column ∈ columns := by simpa [Schema.hasColumn, hcolumns] using hhas
      simpa [Schema.hasColumn, hmore] using hsubset hmem

end Schema

/-! ## Two validations -/

namespace Query

/-- A query in small letters that has no faults has none under an extended schema. -/
theorem faultsOf_eq_nil_of_extendedBy {schema other : Schema} {s : Text}
    (hext : schema.ExtendedBy other (mentioned s)) (hnil : faultsOf schema s = []) :
    faultsOf other s = [] := by
  rw [faultsOf_eq_nil_iff] at hnil ⊢
  rcases hnil with ⟨hform, hsome, hknown, columns, hprojection, hall⟩
  refine ⟨hform, hsome, ?_, columns, hprojection, ?_⟩
  · intro table htable
    exact hext.has htable (hknown table htable)
  · intro column hcolumn
    rcases hall column hcolumn with ⟨table, htable, hhas⟩
    exact ⟨table, htable, hext.hasColumn htable hhas⟩

/--
The faults of a query depend on the mentioned tables only: every stage of the check
looks at these and at the query itself.
-/
theorem faultsOf_eq_of_agreesOn {schema other : Schema} {s : Text}
    (hagree : schema.AgreesOn other (mentioned s)) : faultsOf schema s = faultsOf other s := by
  have hunknown : (mentioned s).filter (fun table => !schema.has table) =
      (mentioned s).filter (fun table => !other.has table) := by
    apply List.filter_congr
    intro table htable
    rw [(hagree table htable).1]
  have hcolumn : ∀ column, ((mentioned s).any fun table => schema.hasColumn table column) =
      (mentioned s).any fun table => other.hasColumn table column := by
    intro column
    rw [Bool.eq_iff_iff, List.any_eq_true, List.any_eq_true]
    constructor
    · rintro ⟨table, htable, hhas⟩
      exact ⟨table, htable, ((hagree table htable).2 column).mp hhas⟩
    · rintro ⟨table, htable, hhas⟩
      exact ⟨table, htable, ((hagree table htable).2 column).mpr hhas⟩
  simp only [faultsOf, outcomeOf, missingColumns, hunknown, hcolumn]

/--
Validation of one query under two schemas.  If the other schema has every mentioned
table of the first with at least its columns, a valid query stays valid; if the two
agree on the mentioned tables, flag and faults are the same.
-/
theorem validation_of_evolved (schema other : Schema) (query : Text) :
    (schema.ExtendedBy other (mentioned (Text.lower query)) →
      isValid schema query = true → isValid other query = true) ∧
    (schema.AgreesOn other (mentioned (Text.lower query)) →
      isValid schema query = isValid other query ∧
        faults schema query = faults other query) := by
  constructor
  · intro hext hvalid
    rw [isValid_eq_isEmpty, List.isEmpty_iff, faults] at hvalid ⊢
    exact faultsOf_eq_nil_of_extendedBy hext hvalid
  · intro hagree
    have hfaults : faults schema query = faults other query := faultsOf_eq_of_agreesOn hagree
    exact ⟨by rw [isValid_eq_isEmpty, isValid_eq_isEmpty, hfaults], hfaults⟩

/-- A shop with customers and orders only, where orders have one column more. -/
def ordersWithNotes : Schema where
  tables := [
    ⟨"pedido", ["nota", "status", "valortotalpedido", "datapedido", "idcliente", "idpedido"]⟩,
    ⟨"cliente", ["idcliente", "nome", "email", "telefone", "endereco"]⟩]

/-- The customers and orders of the shop without its other tables. -/
def ordersAlone : Schema where
  tables := [
    ⟨"cliente", ["idcliente", "nome", "email", "telefone", "endereco"]⟩,
    ⟨"pedido", ["idpedido", "idcliente", "datapedido", "valortotalpedido", "status"]⟩]

/-- The orders of customers stay valid when notes are added and other tables go. -/
theorem validation_customerOrders_evolved :
    isValid .shop Statement.customerOrdersTyped = true ∧
      isValid ordersWithNotes Statement.customerOrdersTyped = true ∧
      faults .shop Statement.customerOrdersTyped =
        faults ordersAlone Statement.customerOrdersTyped := by
  have hmentioned : ∀ name ∈ mentioned (Text.lower Statement.customerOrdersTyped),
      name = "cliente" ∨ name = "pedido" := by
    rw [Statement.lower_customerOrdersTyped]
    decide +kernel
  have hext : Schema.shop.ExtendedBy ordersWithNotes
      (mentioned (Text.lower Statement.customerOrdersTyped)) := by
    intro name hname columns hcolumns
    rcases hmentioned name hname with rfl | rfl
    · cases hcolumns
      exact ⟨_, rfl, List.Subset.refl _⟩
    · cases hcolumns
      exact ⟨_, rfl, by decide +kernel⟩
  have hagree : Schema.shop.AgreesOn ordersAlone
      (mentioned (Text.lower Statement.customerOrdersTyped)) := by
    intro name hname
    rcases hmentioned name hname with rfl | rfl
    · exact ⟨rfl, fun _ => Iff.rfl⟩
    · exact ⟨rfl, fun _ => Iff.rfl⟩
  exact ⟨customerOrders_valid, (validation_of_evolved _ _ _).1 hext customerOrders_valid,
    ((validation_of_evolved _ _ _).2 hagree).2⟩

-- A schema with more in it may have more faults to report.
example :
    faultsOf .empty "select a, b from t".toList = [.unknownTable "t"] ∧
      faultsOf ⟨[⟨"t", []⟩]⟩ "select a, b from t".toList =
        [.unknownColumn "a" ["t"], .unknownColumn "b" ["t"]] := by
  decide +kernel

end Query
end QueryAlgebra
