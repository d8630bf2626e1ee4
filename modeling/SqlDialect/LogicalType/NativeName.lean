import SqlDialect.LogicalType

/-!
# Native type names

The engine's names of types and the logical types that they stand for.
-/

namespace SqlDialect

/-- The names of the engine with their logical types. -/
def nativeTypes : List (String × LogicalType) :=
  [("Boolean", .boolean), ("Integer", .integer), ("Bigint", .bigInteger),
    ("Varbinary", .unknown), ("Binary", .unknown), ("Char", .text), ("Varchar", .text),
    ("Money", .decimal), ("Numeric", .decimal), ("Double", .decimal), ("Float", .float),
    ("Date", .date), ("Time", .time), ("TimeTz", .time), ("Timestamp", .dateTime),
    ("TimestampTz", .dateTime), ("AUTO_INCREMENT", .integer), ("Long Varchar", .text),
    ("Long Varbinary", .unknown)]

/-- Whether two texts differ at most in the case of ASCII letters. -/
def sameIgnoringCase (a b : String) : Bool :=
  a.toList.map Char.toLower = b.toList.map Char.toLower

/-- The type of a name in a table: that of the first entry with exactly this name, else that of the
first entry whose name differs only in case, else unknown. -/
def LogicalType.resolveIn (table : List (String × LogicalType)) (name : String) : LogicalType :=
  match table.find? fun entry => entry.1 = name with
  | some entry => entry.2
  | none =>
    match table.find? fun entry => sameIgnoringCase entry.1 name with
    | some entry => entry.2
    | none => .unknown

/-- The logical type of a native name. -/
def LogicalType.ofNativeName (name : String) : LogicalType :=
  resolveIn nativeTypes name

end SqlDialect
