import SqlDialect.Catalog.Row
import SqlDialect.Catalog.TableSet
import SqlDialect.Config
import SqlDialect.Connection.Spec
import SqlDialect.Drivers.Driver
import SqlDialect.Granularity
import SqlDialect.IntervalUnit
import SqlDialect.LogicalType

/-!
# JSON forms of the data model

Every type that is exchanged with other programs has a JSON form: a function that writes a value as
JSON, and one that reads it back and may accept other spellings of it.
-/

namespace SqlDialect

/-- A type whose values are written as JSON and read from it. -/
class JsonForm (α : Type) where
  /-- The JSON form of a value. -/
  write : α → Json
  /-- The value of a JSON form, if it is one. -/
  read? : Json → Option α

namespace JsonForm

/-- The JSON form of tagged values: the tag as a string, read in any of the forms of a tag. -/
@[reducible]
def ofTags {α : Type} (tag : α → String) (ofTag? : String → Option α) : JsonForm α where
  write value := .string (tag value)
  read? json := json.tag?.bind ofTag?

instance : JsonForm Granularity := ofTags Granularity.token Granularity.ofToken?

instance : JsonForm IntervalUnit := ofTags IntervalUnit.token IntervalUnit.ofToken?

instance : JsonForm LogicalType := ofTags LogicalType.tag LogicalType.ofTag?

instance : JsonForm PropertyKind := ofTags PropertyKind.tag PropertyKind.ofTag?

instance : JsonForm TableName := ⟨TableName.toJson, TableName.ofJson?⟩

instance : JsonForm TableSet := ⟨TableSet.toJson, TableSet.ofJson?⟩

instance : JsonForm DatabaseRef := ⟨DatabaseRef.toJson, DatabaseRef.ofJson?⟩

instance : JsonForm Row := ⟨Row.toJson, Row.ofJson?⟩

instance : JsonForm CatalogConfig := ⟨CatalogConfig.toJson, CatalogConfig.ofJson? .refused⟩

instance : JsonForm Config := ⟨Config.toJson, Config.ofJson?⟩

instance : JsonForm ConnectionSpec := ⟨ConnectionSpec.toJson, ConnectionSpec.ofJson?⟩

/-- The JSON form of the value that is read from JSON: of all its spellings, the one in which it is
written. -/
def normalized? (α : Type) [JsonForm α] (json : Json) : Option Json :=
  (@read? α _ json).map write

end JsonForm
end SqlDialect
