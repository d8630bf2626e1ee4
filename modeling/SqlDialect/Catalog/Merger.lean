import SqlDialect.Catalog.Introspector

/-!
# Merging catalogs

Some objects of a database, such as views, are found only by a query of their own. A merger asks
the introspector for the tables and then adds those that its query finds. Without the tables the
description fails; without the additional ones it is just shorter, so a failure of the query, or of
any one of its rows, leaves the tables as they are.
-/

namespace SqlDialect

/-- How the catalog of a database is completed. -/
structure CatalogMerger where
  /-- What the query finds. -/
  objectKind : String
  /-- The query for additional tables. -/
  query : String
  /-- Whether the query is asked at all. -/
  supplementary : Bool := true
deriving DecidableEq

/-- The column with the schema of an additional table. -/
def schemaColumn : String := "schema"

/-- The column with the name of an additional table. -/
def nameColumn : String := "name"

/-- The text of a column, which must be there. -/
def Row.requiredText (row : Row) (column : String) : Except FetchError String :=
  match row.text? column with
  | some text => .ok text
  | none => .error ⟨.invalidResponse, "missing string column '" ++ column ++ "' in catalog row"⟩

/-- The table that a row names; the schema is looked at first. -/
def Row.table (row : Row) : Except FetchError TableName := do
  let schema ← row.requiredText schemaColumn
  let name ← row.requiredText nameColumn
  return ⟨schema, name⟩

/-- The tables that rows name, in order; the first row that names none decides the failure. -/
def Row.tables : List Row → Except FetchError (List TableName)
  | [] => .ok []
  | row :: rows => do
    let table ← row.table
    let tables ← Row.tables rows
    return table :: tables

namespace CatalogMerger

variable {σ : Type}

/-- The tables that the query finds. -/
def fetchSupplementary (merger : CatalogMerger) (introspector : Introspector σ)
    (database : DatabaseRef) : StateM σ (Except FetchError (List TableName)) := do
  let answer ← introspector.execute database merger.query
  return answer.bind Row.tables

/-- The tables of a database, looked up for a driver, with those that the query finds. -/
def describe (merger : CatalogMerger) (introspector : Introspector σ) (driver : String)
    (database : DatabaseRef) : StateM σ (Except FetchError TableSet) := do
  match ← introspector.describe driver database with
  | .error e => return .error e
  | .ok base =>
    if merger.supplementary then
      match ← merger.fetchSupplementary introspector database with
      | .error _ => return .ok base
      | .ok tables => return .ok (base.union tables)
    else return .ok base

end CatalogMerger
end SqlDialect
