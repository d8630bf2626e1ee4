import SqlDialect.Calendar.Time
import SqlDialect.Json
import SqlDialect.Text.Digits

/-!
# TOML values

The values of TOML and their JSON forms. JSON has no dates and times, so they become objects with
one field that holds their text; numbers that are not finite become `null`.
-/

namespace SqlDialect.Toml

/-- The zone of a date and time. -/
inductive Zone where
  /-- Universal time, written `Z`. -/
  | utc
  /-- An offset of so many minutes to the east. -/
  | offset (minutes : Int)
deriving DecidableEq, Repr

/-- A time of day with nanoseconds. -/
structure Time where
  /-- The time to the second. -/
  time : TimeOfDay
  /-- The nanoseconds past the second. -/
  nanoseconds : Nat
deriving DecidableEq

/-- A date, a time, or both with or without a zone. -/
inductive Moment where
  | date (date : Date)
  | time (time : Time)
  | dateTime (date : Date) (time : Time) (zone : Option Zone)
deriving DecidableEq

/-- A value. -/
inductive Value where
  | string (value : String)
  | integer (value : Int)
  | float (value : Binary64)
  | boolean (value : Bool)
  | moment (value : Moment)
  | array (items : List Value)
  | table (fields : List (String × Value))

/-! ## Text of dates and times -/

/-- `YYYY-MM-DD`. -/
def dateText (d : Date) : List Char :=
  Text.padded 4 d.year.natAbs ++ '-' :: Text.padded 2 d.month ++ '-' :: Text.padded 2 d.day

/-- `HH:MM:SS`, and the nanoseconds without zeros at their end, unless there are none. -/
def Time.text (t : Time) : List Char :=
  Text.padded 2 t.time.hour ++ ':' :: Text.padded 2 t.time.minute ++
    ':' :: Text.padded 2 t.time.second ++
    (if t.nanoseconds = 0 then []
      else '.' :: ((Text.padded 9 t.nanoseconds).reverse.dropWhile (· = '0')).reverse)

/-- `Z`, or a sign with hours and minutes. -/
def Zone.text : Zone → List Char
  | .utc => ['Z']
  | .offset minutes =>
    (if minutes < 0 then '-' else '+') ::
      (Text.padded 2 (minutes.natAbs / 60) ++ ':' :: Text.padded 2 (minutes.natAbs % 60))

/-- The text of a date, a time or both, with a `T` between them. -/
def Moment.text : Moment → List Char
  | .date d => dateText d
  | .time t => t.text
  | .dateTime d t zone => dateText d ++ 'T' :: t.text ++ (zone.map Zone.text).getD []

/-! ## JSON form -/

/-- The name of the field that holds the text of a date or time. -/
def momentField : String := "$__toml_private_datetime"

mutual

/-- The JSON form of a value. -/
def Value.toJson : Value → Json
  | .string value => .string value
  | .integer value => .int value
  | .float (.finite negative mantissa exponent normal) =>
    .number (.float (.finite negative mantissa exponent normal))
  | .float _ => .null
  | .boolean value => .bool value
  | .moment value => .object [(momentField, .string (String.ofList value.text))]
  | .array items => .array (itemsToJson items)
  | .table fields => .ofFields (fieldsToJson fields)

/-- The JSON forms of items. -/
def itemsToJson : List Value → List Json
  | [] => []
  | item :: items => item.toJson :: itemsToJson items

/-- The JSON forms of fields. -/
def fieldsToJson : List (String × Value) → List (String × Json)
  | [] => []
  | (name, value) :: fields => (name, value.toJson) :: fieldsToJson fields

end

end SqlDialect.Toml
