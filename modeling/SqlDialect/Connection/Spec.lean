import SqlDialect.Connection.Params

/-!
# Connection specs

What the transport needs to connect: the class of the driver, the address, and the fields that
passed through. As JSON, the fields that passed through stand beside the six fields of the spec.
-/

namespace SqlDialect

/-- What the transport needs to connect. -/
structure ConnectionSpec where
  /-- The class of the driver. -/
  classname : String
  /-- The name of the protocol in the address. -/
  subprotocol : String
  /-- `//host:port/database`, and `?` and the options if there are any. -/
  subname : String
  /-- The host. -/
  host : String
  /-- The port. -/
  port : UInt16
  /-- The name of the database. -/
  database : String
  /-- The fields that passed through. -/
  details : KeyedMap Json

namespace ConnectionSpec

/-- The class of the driver. -/
def driverClass : String := "com.vertica.jdbc.Driver"

/-- The name of the protocol. -/
def protocol : String := "vertica"

/-- The address of a database, without options. -/
def address (host : String) (port : UInt16) (database : String) : String :=
  "//" ++ host ++ ":" ++ String.ofList (Text.digits port.toNat) ++ "/" ++ database

/-- The options without the separators in front. -/
def strippedOptions (options : Option String) : String :=
  String.ofList ((options.getD "").toList.dropWhile fun c => c = '?' ∨ c = ';')

/-- The spec of connection parameters. -/
def ofParams (params : ConnectionParams) : ConnectionSpec :=
  let base := address params.host params.port params.database
  let options := strippedOptions params.additionalOptions
  { classname := driverClass
    subprotocol := protocol
    subname := if options = "" then base else base ++ "?" ++ options
    host := params.host
    port := params.port
    database := params.database
    details := params.other }

/-- The spec of connection details. -/
def ofDetails (details : KeyedMap Json) : Except RequestError ConnectionSpec :=
  (ConnectionParams.ofDetails details).map ofParams

/-- The whole address. -/
def url (spec : ConnectionSpec) : String :=
  "jdbc:" ++ spec.subprotocol ++ ":" ++ spec.subname

/-! ## JSON form -/

/-- The names of the six fields. -/
def fieldNames : List String :=
  ["classname", "subprotocol", "subname", "host", "port", "database"]

/-- The six fields and then the fields that passed through. -/
def fields (spec : ConnectionSpec) : List (String × Json) :=
  [("classname", .string spec.classname), ("subprotocol", .string spec.subprotocol),
    ("subname", .string spec.subname), ("host", .string spec.host),
    ("port", .nat spec.port.toNat), ("database", .string spec.database)] ++
    spec.details.entries

/-- The spec as a JSON object. A field that passed through takes the place of a field of the spec
with the same name. -/
def toJson (spec : ConnectionSpec) : Json :=
  .ofFields spec.fields

/-- Reads a spec from a JSON object; every field other than the six passes through. -/
def ofJson? (json : Json) : Option ConnectionSpec := do
  let map ← json.toMap?
  let classname ← (← map.find? "classname").string?
  let subprotocol ← (← map.find? "subprotocol").string?
  let subname ← (← map.find? "subname").string?
  let host ← (← map.find? "host").string?
  let port ← ConnectionParams.portOfInt? (← (← map.find? "port").integer?)
  let database ← (← map.find? "database").string?
  return {
    classname, subprotocol, subname, host, port, database
    details := map.filterKeys fun name => !fieldNames.contains name }

/-- The indented text of a spec. The fields stand in the order of `fields`, and a name that occurs
twice is written twice. -/
def indented (spec : ConnectionSpec) : String :=
  Json.indentedRecord spec.fields

end ConnectionSpec
end SqlDialect
