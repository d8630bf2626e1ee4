import SqlDialect.Files.Tree
import SqlDialect.Json.Record
import SqlDialect.Toml.Document

/-!
# Configuration

A configuration names a time zone for sessions, holds the details of a connection and says whether
views are listed among the tables. It is written in TOML; as JSON it has the same fields. Fields
that are not known are ignored, and each of the known ones may be left out.
-/

namespace SqlDialect

/-- The settings for listing tables. -/
structure CatalogConfig where
  /-- Whether views are listed among the tables. -/
  includeViews : Bool := true
deriving DecidableEq

/-- The configuration. -/
structure Config where
  /-- The time zone of sessions. -/
  reportTimezone : Option String := none
  /-- The details of the connection. -/
  connection : KeyedMap Json := .empty
  /-- The settings for listing tables. -/
  catalog : CatalogConfig := {}
  /-- The directory that the configuration was read from. -/
  projectRoot : String := ""

/-- Why there is no configuration. -/
inductive ConfigError where
  /-- The file cannot be read. -/
  | unreadable (failure : ReadFailure)
  /-- The text is no TOML, or a known field has a value of another kind. -/
  | malformed
deriving DecidableEq

/-- The description of an error. -/
def ConfigError.message : ConfigError → String
  | .unreadable failure => "IO error: " ++ failure.message
  | .malformed => "Parse error"

namespace CatalogConfig

/-- The settings as a JSON object. -/
def toJson (catalog : CatalogConfig) : Json :=
  .ofFields [("include_views", .bool catalog.includeViews)]

/-- Reads the settings from JSON. -/
def ofJson? (extra : Json.ExtraItems) (json : Json) : Option CatalogConfig :=
  match json.record? extra ["include_views"] with
  | some [none] => some {}
  | some [some (.bool includeViews)] => some { includeViews }
  | _ => none

end CatalogConfig

namespace Config

/-- The value of a field that may be left out. -/
def optional {α : Type} (absent : α) (read : Json → Option α) : Option Json → Option α
  | none => some absent
  | some json => read json

/-- The names of the fields. -/
def fieldNames : List String :=
  ["report_timezone", "connection", "catalog"]

/-- The configuration as a JSON object, without the directory. -/
def toJson (config : Config) : Json :=
  .ofFields [("report_timezone", .ofText? config.reportTimezone),
    ("connection", .ofMap config.connection), ("catalog", config.catalog.toJson)]

/-- Reads a time zone, which may also be `null`. -/
def timezoneOfJson? : Json → Option (Option String)
  | .null => some none
  | .string zone => some (some zone)
  | _ => none

/-- Reads a configuration from JSON. -/
def ofJson? (json : Json) : Option Config :=
  match json.record? .refused fieldNames with
  | some [timezone, connection, catalog] => do
    let reportTimezone ← optional none timezoneOfJson? timezone
    let connection ← optional .empty Json.toMap? connection
    let catalog ← optional {} (CatalogConfig.ofJson? .refused) catalog
    return { reportTimezone, connection, catalog }
  | _ => none

/-- Reads a configuration from the fields of a TOML document. The time zone must be a text; an
array for the catalog may have more items than the catalog has fields. -/
def ofFields? (fields : List (String × Toml.Value)) : Option Config := do
  let find (name : String) := KeyedMap.valueAt? name fields
  let reportTimezone ←
    match find "report_timezone" with
    | none => some none
    | some (.string zone) => some (some zone)
    | some _ => none
  let connection ← optional .empty Json.toMap? ((find "connection").map Toml.Value.toJson)
  let catalog ← optional {} (CatalogConfig.ofJson? .ignored) ((find "catalog").map Toml.Value.toJson)
  return { reportTimezone, connection, catalog }

/-- Reads a configuration from TOML. -/
def ofToml (text : String) : Except ConfigError Config :=
  match (Toml.ofText? text).bind ofFields? with
  | some config => .ok config
  | none => .error .malformed

/-- Reads a configuration from the contents of the file at a path. -/
def ofFile (path : String) (contents : Except ReadFailure ByteArray) :
    Except ConfigError Config := do
  let text ← (contents.bind textOfBytes).mapError .unreadable
  let config ← ofToml text
  return { config with projectRoot := (Path.parent? path).getD "" }

end Config
end SqlDialect
