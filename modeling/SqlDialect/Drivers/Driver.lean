import SqlDialect.Catalog.Merger
import SqlDialect.Config
import SqlDialect.Connection.Spec
import SqlDialect.LogicalType.NativeName

/-!
# Drivers

A driver stands for an engine: its names, the fields of a connection that a user is asked for, and
its resolution of native types. `Driver.vertica` is the one that this library brings along; under a
configuration it comes with the merger through which it describes databases.
-/

namespace SqlDialect

/-- The kind of value that a connection field holds. -/
inductive PropertyKind where
  | string
  | integer
  | password
deriving DecidableEq, Repr

namespace PropertyKind

/-- All kinds. -/
def all : List PropertyKind := [.string, .integer, .password]

/-- The name of a kind. -/
def tag : PropertyKind → String
  | .string => "string"
  | .integer => "integer"
  | .password => "password"

/-- The kind with a given name. -/
def ofTag? (tag : String) : Option PropertyKind :=
  all.find? fun k => k.tag = tag

theorem ofTag?_tag (k : PropertyKind) : ofTag? k.tag = some k := by
  cases k <;> decide +kernel

end PropertyKind

/-- A field of a connection that a user is asked for. -/
structure ConnectionProperty where
  /-- The name of the field among the details. -/
  name : String
  /-- What the field is called when the user is asked. -/
  displayName : String
  /-- The kind of value. -/
  kind : PropertyKind
  /-- The value when none is given. -/
  default : Option String
  /-- An example of a value. -/
  placeholder : Option String
  /-- Whether a value must be given. -/
  required : Bool
deriving DecidableEq

/-- The property as a JSON object. -/
def ConnectionProperty.toJson (p : ConnectionProperty) : Json :=
  .ofFields [("name", .string p.name), ("display_name", .string p.displayName),
    ("kind", .string p.kind.tag), ("default", .ofText? p.default),
    ("placeholder", .ofText? p.placeholder), ("required", .bool p.required)]

/-- A driver for an engine. -/
structure Driver where
  /-- The name under which the driver is registered. -/
  name : String
  /-- The name of the engine for people. -/
  displayName : String
  /-- The fields of a connection. -/
  properties : List ConnectionProperty
  /-- The logical type of a native type name. -/
  resolveType : String → LogicalType

/-- A driver that has only an identity and resolves no type. -/
def Driver.named (name displayName : String) : Driver where
  name := name
  displayName := displayName
  properties := []
  resolveType _ := .unknown

/-- The query for the views of a database. -/
def viewsQuery : String :=
  "SELECT table_schema AS \"schema\", table_name AS \"name\" FROM v_catalog.views " ++
    "WHERE NOT is_system_view"

/-- The merger that adds the views of a database to its tables. -/
def CatalogMerger.views (includeViews : Bool) : CatalogMerger where
  objectKind := "view"
  query := viewsQuery
  supplementary := includeViews

/-- The fields of a connection to Vertica. -/
def verticaProperties : List ConnectionProperty :=
  [⟨"host", "Host", .string, some ConnectionParams.defaultHost, none, false⟩,
    ⟨"port", "Port", .integer,
      some (String.ofList (Text.digits ConnectionParams.defaultPort.toNat)), none, false⟩,
    ⟨"dbname", "Database name", .string, none, some "birds_of_the_world", true⟩,
    ⟨"user", "Database username", .string, none,
      some "What username do you use to login to the database?", true⟩,
    ⟨"password", "Database password", .password, none, none, false⟩,
    ⟨"additional-options", "Additional JDBC connection string options", .string, none,
      some "ConnectionLoadBalance=1", false⟩]

/-- The driver for Vertica. -/
def Driver.vertica : Driver where
  name := "vertica"
  displayName := "Vertica"
  properties := verticaProperties
  resolveType := LogicalType.ofNativeName

/-- A driver with the merger through which it describes databases. -/
structure ConfiguredDriver extends Driver where
  /-- Completes the tables of a database. -/
  merger : CatalogMerger

/-- The driver for Vertica under the settings for listing tables. -/
def ConfiguredDriver.vertica (catalog : CatalogConfig) : ConfiguredDriver where
  toDriver := .vertica
  merger := .views catalog.includeViews

/-- The tables of a database, looked up for the driver and completed by its merger. -/
def ConfiguredDriver.describe {σ : Type} (driver : ConfiguredDriver)
    (introspector : Introspector σ) (database : DatabaseRef) :
    StateM σ (Except FetchError TableSet) :=
  driver.merger.describe introspector driver.name database

end SqlDialect
