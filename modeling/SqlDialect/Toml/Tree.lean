import SqlDialect.Toml.Value

/-!
# Tables under construction

A document builds its tables line by line: a header opens a table, a dotted key opens tables on its
way to a value, and a header in double brackets adds a table to a list. What may be added to a
table later depends on how it was opened, and a value, tables in braces included, is closed as soon
as it is read.
-/

namespace SqlDialect.Toml

/-- How a table was opened. -/
inductive Origin where
  /-- By a header of its own. -/
  | header
  /-- By a header of a table inside it. -/
  | innerHeader
  /-- By a dotted key. -/
  | dottedKey
deriving DecidableEq, Repr

/-- What stands under a key while a document is read. -/
inductive Node where
  /-- A value. -/
  | value (value : Value)
  /-- A table. -/
  | table (origin : Origin) (fields : List (String × Node))
  /-- A list of tables, the latest first. -/
  | tables (latest : List (String × Node)) (earlier : List (List (String × Node)))

/-- The fields of a table. -/
abbrev Fields := List (String × Node)

mutual

/-- The finished value. -/
def Node.toValue : Node → Value
  | .value value => value
  | .table _ fields => .table (fieldsToValues fields)
  | .tables latest earlier =>
    .array ((Value.table (fieldsToValues latest) :: tablesToValues earlier).reverse)

/-- The finished fields. -/
def fieldsToValues : List (String × Node) → List (String × Value)
  | [] => []
  | (name, node) :: fields => (name, node.toValue) :: fieldsToValues fields

/-- The finished tables of a list. -/
def tablesToValues : List (List (String × Node)) → List Value
  | [] => []
  | fields :: rest => .table (fieldsToValues fields) :: tablesToValues rest

end

namespace Fields

/-- What stands under a key. -/
def find? (key : String) (fields : Fields) : Option Node :=
  KeyedMap.valueAt? key fields

/-- The fields with another node under a key. -/
def put (key : String) (node : Node) (fields : Fields) : Fields :=
  KeyedMap.insertEntry key node fields

/-- Puts a value under a new key. A key of several parts opens tables on its way, and it may pass
only through tables that were not opened by a header of their own; the table it ends in must have
been opened by a dotted key. -/
def set (path : List String) (key : String) (value : Value) (dotted inPath : Bool)
    (fields : Fields) : Option Fields :=
  match path with
  | [] =>
    if dotted ≠ inPath then none
    else if (fields.find? key).isSome then none
    else some (fields.put key (.value value))
  | first :: rest =>
    match fields.find? first with
    | none => do
      let inner ← set rest key value true true []
      return fields.put first (.table .dottedKey inner)
    | some (.value _) => none
    | some (.table .header _) => none
    | some (.table origin inner) => do
      let inner ← set rest key value (origin = .dottedKey) true inner
      return fields.put first (.table origin inner)
    | some (.tables latest earlier) => do
      let latest ← set rest key value false true latest
      return fields.put first (.tables latest earlier)

/-- Changes the fields of the table at a path of headers; tables that are not there yet are
opened, and of a list of tables the latest one is meant. -/
def change (path : List String) (act : Fields → Option Fields) (fields : Fields) : Option Fields :=
  match path with
  | [] => act fields
  | first :: rest =>
    match fields.find? first with
    | none => do
      let inner ← change rest act []
      return fields.put first (.table .innerHeader inner)
    | some (.value _) => none
    | some (.table origin inner) => do
      let inner ← change rest act inner
      return fields.put first (.table origin inner)
    | some (.tables latest earlier) => do
      let latest ← change rest act latest
      return fields.put first (.tables latest earlier)

/-- Opens the table of a header. It may have been opened before by headers of tables inside it, but
in no other way. -/
def openTable (key : String) (fields : Fields) : Option Fields :=
  match fields.find? key with
  | none => some (fields.put key (.table .header []))
  | some (.table .innerHeader inner) => some (fields.put key (.table .header inner))
  | some _ => none

/-- Adds a table to the list of a header in double brackets. -/
def openElement (key : String) (fields : Fields) : Option Fields :=
  match fields.find? key with
  | none => some (fields.put key (.tables [] []))
  | some (.tables latest earlier) => some (fields.put key (.tables [] (latest :: earlier)))
  | some _ => none

/-- The fields of a table in braces, from its keys and values in order. -/
def ofPairs (pairs : List ((List String × String) × Value)) : Option Fields :=
  pairs.foldlM (fun fields pair => fields.set pair.1.1 pair.1.2 pair.2 false false) []

end Fields
end SqlDialect.Toml
