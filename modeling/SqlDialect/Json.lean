import SqlDialect.KeyedMap
import SqlDialect.Number.Binary64

/-!
# JSON values

The values of JSON. A number that is written without a point and without a power of ten, and that
fits into 64 bits with or without a sign, is an integer; every other number is a binary floating
point number. The fields of an object stand in ascending order of their names, each name once; the
functions that build objects see to that.
-/

namespace SqlDialect

/-- A JSON number. -/
inductive JsonNumber where
  /-- A whole number of at most 64 bits. -/
  | integer (value : Int)
  /-- Any other number. -/
  | float (value : Binary64)
deriving DecidableEq

/-- A JSON value. -/
inductive Json where
  | null
  | bool (value : Bool)
  | number (value : JsonNumber)
  | string (value : String)
  | array (items : List Json)
  | object (fields : List (String × Json))

namespace Json

instance : Inhabited Json := ⟨.null⟩

/-- The integer as a JSON number. -/
def int (value : Int) : Json :=
  .number (.integer value)

/-- The whole number as a JSON number. -/
def nat (value : Nat) : Json :=
  .number (.integer value)

/-- An object made of fields in any order; of two fields with one name the later counts. -/
def ofFields (fields : List (String × Json)) : Json :=
  .object (KeyedMap.ofList fields).entries

/-- The object with the entries of a map. -/
def ofMap (map : KeyedMap Json) : Json :=
  .object map.entries

/-- The fields of an object as a map. -/
def toMap? : Json → Option (KeyedMap Json)
  | .object fields => some (KeyedMap.ofList fields)
  | _ => none

/-- The value of a field of an object. -/
def field? (name : String) : Json → Option Json
  | .object fields => KeyedMap.valueAt? name fields
  | _ => none

/-- The text of a string value. -/
def string? : Json → Option String
  | .string value => some value
  | _ => none

/-- The truth value of a boolean. -/
def bool? : Json → Option Bool
  | .bool value => some value
  | _ => none

/-- The integer of an integer number. -/
def integer? : Json → Option Int
  | .number (.integer value) => some value
  | _ => none

/-- The items of an array. -/
def items? : Json → Option (List Json)
  | .array items => some items
  | _ => none

/-- The text or nothing, as a string value or `null`. -/
def ofText? (text : Option String) : Json :=
  (text.map Json.string).getD .null

end Json
end SqlDialect
