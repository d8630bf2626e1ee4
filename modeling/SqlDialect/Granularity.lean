/-!
# Granularities

The units at which a query groups a point in time. A granularity either truncates, so that the
result is a point in time again, or extracts a number, such as the hour of the day.
-/

namespace SqlDialect

/-- A granularity of a temporal expression. -/
inductive Granularity where
  /-- The expression as it is. -/
  | default
  | minute
  | minuteOfHour
  | hour
  | hourOfDay
  | day
  | dayOfWeek
  | dayOfMonth
  | dayOfYear
  | week
  | weekOfYear
  | month
  | monthOfYear
  | quarter
  | quarterOfYear
  | year
deriving DecidableEq, Repr

namespace Granularity

/-- All granularities, from fine to coarse. -/
def all : List Granularity :=
  [.default, .minute, .minuteOfHour, .hour, .hourOfDay, .day, .dayOfWeek, .dayOfMonth, .dayOfYear,
    .week, .weekOfYear, .month, .monthOfYear, .quarter, .quarterOfYear, .year]

/-- The name of a granularity in requests. -/
def token : Granularity → String
  | .default => "default"
  | .minute => "minute"
  | .minuteOfHour => "minute-of-hour"
  | .hour => "hour"
  | .hourOfDay => "hour-of-day"
  | .day => "day"
  | .dayOfWeek => "day-of-week"
  | .dayOfMonth => "day-of-month"
  | .dayOfYear => "day-of-year"
  | .week => "week"
  | .weekOfYear => "week-of-year"
  | .month => "month"
  | .monthOfYear => "month-of-year"
  | .quarter => "quarter"
  | .quarterOfYear => "quarter-of-year"
  | .year => "year"

/-- The granularity with a given name; names are compared exactly. -/
def ofToken? (token : String) : Option Granularity :=
  all.find? fun g => g.token = token

/-- Whether the result is a whole number and not a point in time. -/
def isExtraction : Granularity → Bool
  | .minuteOfHour | .hourOfDay | .dayOfWeek | .dayOfMonth | .dayOfYear | .weekOfYear
  | .monthOfYear | .quarterOfYear | .year => true
  | .default | .minute | .hour | .day | .week | .month | .quarter => false

/-- Every granularity is found by its name. -/
theorem ofToken?_token (g : Granularity) : ofToken? g.token = some g := by
  cases g <;> decide +kernel

end Granularity
end SqlDialect
