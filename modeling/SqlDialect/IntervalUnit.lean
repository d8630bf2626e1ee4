/-!
# Interval units

The units in which an offset from the current time is counted.
-/

namespace SqlDialect

/-- The unit of an interval. -/
inductive IntervalUnit where
  | second
  | minute
  | hour
  | day
  | week
  | month
  | quarter
  | year
deriving DecidableEq, Repr

namespace IntervalUnit

/-- All units, from short to long. -/
def all : List IntervalUnit :=
  [.second, .minute, .hour, .day, .week, .month, .quarter, .year]

/-- The name of a unit, in requests and in SQL. -/
def token : IntervalUnit → String
  | .second => "second"
  | .minute => "minute"
  | .hour => "hour"
  | .day => "day"
  | .week => "week"
  | .month => "month"
  | .quarter => "quarter"
  | .year => "year"

/-- The unit with a given name; names are compared exactly. -/
def ofToken? (token : String) : Option IntervalUnit :=
  all.find? fun u => u.token = token

/-- Every unit is found by its name. -/
theorem ofToken?_token (u : IntervalUnit) : ofToken? u.token = some u := by
  cases u <;> decide +kernel

end IntervalUnit
end SqlDialect
