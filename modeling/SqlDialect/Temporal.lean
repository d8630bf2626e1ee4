import SqlDialect.Expr.TemporalLiteral
import SqlDialect.Granularity
import SqlDialect.IntervalUnit
import SqlDialect.RequestError

/-!
# Temporal expressions

Requests to truncate a point in time, to extract a number from it or to move away from the current
time are answered with SQL of an engine that has no weeks starting on Sunday, counts the days of the
week from zero and never converts strings by itself. Every temporal function therefore gets its
operand through `asTimestamp`.
-/

namespace SqlDialect
namespace Expr

/-- The expression with a temporal literal cast to a timestamp; any other expression as it is. -/
def asTimestamp (e : Expr) : Expr :=
  if e.isTemporalLiteral then .cast e "TIMESTAMP" else e

/-- The start of the unit that contains a point in time. -/
def truncatedTo (unit : String) (e : Expr) : Expr :=
  .call "DATE_TRUNC" [.string unit, e]

/-- A field of a point in time as an integer; the engine itself yields a decimal number. -/
def fieldOf (field : String) (e : Expr) : Expr :=
  .cast (.extract field e.asTimestamp) "INTEGER"

/-- The span of one day. -/
def oneDay : Expr :=
  .interval 1 "day"

/-- The start of the week, from Sunday on. The engine's weeks start on Monday, so the point in time
is moved a day on before truncation and the result a day back. -/
def startOfWeek (e : Expr) : Expr :=
  ((e.asTimestamp.plus oneDay).truncatedTo "week").minus oneDay

/-- The expression at a granularity. -/
def truncate : Granularity → Expr → Expr
  | .default, e => e
  | .minute, e => e.asTimestamp.truncatedTo "minute"
  | .minuteOfHour, e => e.fieldOf "MINUTE"
  | .hour, e => e.asTimestamp.truncatedTo "hour"
  | .hourOfDay, e => e.fieldOf "HOUR"
  | .day, e => .cast e "DATE"
  | .dayOfWeek, e => (e.fieldOf "DOW").plus (.integer 1)
  | .dayOfMonth, e => e.fieldOf "DAY"
  | .dayOfYear, e => e.fieldOf "DOY"
  | .week, e => e.startOfWeek
  | .weekOfYear, e => .call "WEEK" [e.asTimestamp]
  | .month, e => e.asTimestamp.truncatedTo "month"
  | .monthOfYear, e => e.fieldOf "MONTH"
  | .quarter, e => e.asTimestamp.truncatedTo "quarter"
  | .quarterOfYear, e => e.fieldOf "QUARTER"
  | .year, e => e.fieldOf "YEAR"

/-- The number of characters of a text. The operand is cast first, so that binary and long values
count characters too. -/
def characterCount (e : Expr) : Expr :=
  .call "CHAR_LENGTH" [.cast e "CHAR"]

/-- The current time moved by a number of units. The amount must be a whole number that fits into 64
bits with a sign. The greatest integer of 64 bits is no binary number: rounded to one it is the first
that does not fit, so that end is excluded and the other is not. -/
def offsetFromNow (unit : IntervalUnit) (amount : Binary64) : Except RequestError Expr :=
  if !amount.isFinite || !amount.fraction.isZero then .error (.invalidOffsetAmount amount)
  else if amount < .ofInt Int64.minValue.toInt ∨ .ofInt Int64.maxValue.toInt ≤ amount then
    .error (.invalidOffsetAmount amount)
  else .ok (now.plus (.interval amount.toInt64.toInt unit.token))

/-- A granularity chosen by name. -/
def truncateByName (token : String) (e : Expr) : Except RequestError Expr :=
  match Granularity.ofToken? token with
  | some granularity => .ok (e.truncate granularity)
  | none => .error (.unknownGranularity token)

/-- An offset whose unit is chosen by name; the name is looked up before the amount is examined. -/
def offsetByName (token : String) (amount : Binary64) : Except RequestError Expr :=
  match IntervalUnit.ofToken? token with
  | some unit => offsetFromNow unit amount
  | none => .error (.unknownIntervalUnit token)

end Expr
end SqlDialect
