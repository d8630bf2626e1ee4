import SqlDialect.Json.Record

/-!
# Rows and databases

A row of an answer holds JSON values under the names of its columns. A database is known by its
name; the details of its connection go with it.
-/

namespace SqlDialect

/-- A row of the answer to a query. -/
structure Row where
  /-- The values by column. -/
  columns : KeyedMap Json

namespace Row

/-- The value of a column. -/
def get? (row : Row) (column : String) : Option Json :=
  row.columns.find? column

/-- The value of a column, if it is a text. -/
def text? (row : Row) (column : String) : Option String :=
  (row.get? column).bind Json.string?

/-- The row as a JSON object with the columns in a field. -/
def toJson (row : Row) : Json :=
  .ofFields [("columns", .ofMap row.columns)]

/-- Reads a row from JSON. -/
def ofJson? (json : Json) : Option Row :=
  match json.record? .refused ["columns"] with
  | some [some columns] => columns.toMap?.map fun map => ⟨map⟩
  | _ => none

end Row

/-- A database that can be described. -/
structure DatabaseRef where
  /-- The name of the database. -/
  name : String
  /-- The details of the connection to it. -/
  details : KeyedMap Json := .empty

namespace DatabaseRef

/-- The reference as a JSON object. -/
def toJson (database : DatabaseRef) : Json :=
  .ofFields [("name", .string database.name), ("details", .ofMap database.details)]

/-- Reads a reference from JSON; the details may be left out. -/
def ofJson? (json : Json) : Option DatabaseRef :=
  match json.record? .refused ["name", "details"] with
  | some [some (.string name), none] => some { name }
  | some [some (.string name), some details] =>
    details.toMap?.map fun details => { name, details }
  | _ => none

end DatabaseRef
end SqlDialect
