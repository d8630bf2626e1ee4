import SqlDialect.Json.Printer
import SqlDialect.RequestError
import SqlDialect.Text.Blank

/-!
# Connection parameters

Connection details come as an open map of JSON values. The fields that have a meaning here are read
leniently: a value of an unusable kind counts as absent. Only a host that is neither a text nor a
number is refused. All other fields pass through unchanged.
-/

namespace SqlDialect

/-- The parameters of a connection. -/
structure ConnectionParams where
  /-- The host. -/
  host : String
  /-- The port. -/
  port : UInt16
  /-- The name of the database. -/
  dbname : Option String
  /-- The name of the database under its older field. -/
  db : Option String
  /-- Whether the connection is encrypted. -/
  ssl : Option Bool
  /-- Options for the end of the address. -/
  additionalOptions : Option String
  /-- All other fields. -/
  other : KeyedMap Json

namespace ConnectionParams

/-- The host when none is given. -/
def defaultHost : String := "localhost"

/-- The port when no usable one is given. -/
def defaultPort : UInt16 := 5433

/-- The fields that are read here and do not pass through. -/
def readFields : List String :=
  ["host", "port", "dbname", "db", "ssl", "additional-options"]

/-- The host of a field: a text that is not blank, or the text of a number. -/
def readHost : Option Json → Except RequestError String
  | none | some .null => .ok defaultHost
  | some (.string s) => .ok (if Text.isBlankText s then defaultHost else s)
  | some (.number n) => .ok n.text
  | some value => .error (.invalidHost value.compact)

/-- The port of a whole number. -/
def portOfInt? (n : Int) : Option UInt16 :=
  if 0 ≤ n ∧ n < 65536 then some (UInt16.ofNat n.toNat) else none

/-- The port of a text: digits after an optional plus sign, with blanks around them. -/
def portOfText? (s : String) : Option UInt16 :=
  let ds :=
    match Text.trim s.toList with
    | '+' :: ds => ds
    | ds => ds
  (Text.wholeNumber? ds).bind fun n => portOfInt? n

/-- The port of a field. -/
def readPort : Option Json → UInt16
  | some (.number (.integer n)) => (portOfInt? n).getD defaultPort
  | some (.string s) => (portOfText? s).getD defaultPort
  | _ => defaultPort

/-- The text of a field: a text that is not empty, or the text of a number. -/
def readText : Option Json → Option String
  | some (.string s) => if s = "" then none else some s
  | some (.number n) => some n.text
  | _ => none

/-- The truth value of a field: a boolean, or one of the texts `true` and `false`. -/
def readBool : Option Json → Option Bool
  | some (.bool b) => some b
  | some (.string s) => if s = "true" then some true else if s = "false" then some false else none
  | _ => none

/-- Reads connection details. -/
def ofDetails (details : KeyedMap Json) : Except RequestError ConnectionParams := do
  let host ← readHost (details.find? "host")
  return {
    host
    port := readPort (details.find? "port")
    dbname := readText (details.find? "dbname")
    db := readText (details.find? "db")
    ssl := readBool (details.find? "ssl")
    additionalOptions := readText (details.find? "additional-options")
    other := details.filterKeys fun name => !readFields.contains name }

/-- The name of the database; the newer field comes first. -/
def database (params : ConnectionParams) : String :=
  (params.dbname.or params.db).getD ""

end ConnectionParams
end SqlDialect
