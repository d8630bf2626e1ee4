/-!
# Logical types

The types that a query tool knows, and the native type names that stand for them. A name is looked
up first as it is written and then without regard to the case of ASCII letters.
-/

namespace SqlDialect

/-- A type of the query tool. -/
inductive LogicalType where
  | boolean
  | integer
  | bigInteger
  | decimal
  | float
  | text
  | date
  | time
  | dateTime
  /-- No type that the tool knows. -/
  | unknown
deriving DecidableEq, Repr

namespace LogicalType

/-- All types. -/
def all : List LogicalType :=
  [.boolean, .integer, .bigInteger, .decimal, .float, .text, .date, .time, .dateTime, .unknown]

/-- The name of a type, in lower case. -/
def tag : LogicalType → String
  | .boolean => "boolean"
  | .integer => "integer"
  | .bigInteger => "biginteger"
  | .decimal => "decimal"
  | .float => "float"
  | .text => "text"
  | .date => "date"
  | .time => "time"
  | .dateTime => "datetime"
  | .unknown => "unknown"

/-- The name of a type as it is shown, in upper case. -/
def display : LogicalType → String
  | .boolean => "BOOLEAN"
  | .integer => "INTEGER"
  | .bigInteger => "BIGINTEGER"
  | .decimal => "DECIMAL"
  | .float => "FLOAT"
  | .text => "TEXT"
  | .date => "DATE"
  | .time => "TIME"
  | .dateTime => "DATETIME"
  | .unknown => "UNKNOWN"

/-- The type with a given tag; tags are compared exactly. -/
def ofTag? (tag : String) : Option LogicalType :=
  all.find? fun t => t.tag = tag

/-- Whether values of the type are dates or times. -/
def isTemporal : LogicalType → Bool
  | .date | .time | .dateTime => true
  | _ => false

/-- Whether values of the type are numbers. -/
def isNumeric : LogicalType → Bool
  | .integer | .bigInteger | .decimal | .float => true
  | _ => false

/-- Every type is found by its tag. -/
theorem ofTag?_tag (t : LogicalType) : ofTag? t.tag = some t := by
  cases t <;> decide +kernel

end LogicalType
end SqlDialect
