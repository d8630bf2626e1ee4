import SqlDialect.Proofs.Engine.Evaluator
import SqlDialect.Temporal

/-!
# What granularities mean

The value of a point in time at a granularity, told by the calendar alone. Main statement: this is
the value that the engine gives to the expression of the granularity.
-/

namespace SqlDialect

/-- The value of a timestamp at a granularity. -/
def Granularity.value (t : Timestamp) : Granularity → Engine.Value
  | .default => .timestamp t
  | .minute => .timestamp t.startOfMinute
  | .minuteOfHour => .integer t.minute
  | .hour => .timestamp t.startOfHour
  | .hourOfDay => .integer t.hour
  | .day => .date t.date
  | .dayOfWeek => .integer (t.date.daysFromSunday + 1)
  | .dayOfMonth => .integer t.date.day
  | .dayOfYear => .integer (t.date.dayOfYear + 1)
  | .week => .timestamp (.midnight t.date.startOfWeek)
  | .weekOfYear => .integer t.date.weekOfYear
  | .month => .timestamp (.midnight t.date.startOfMonth)
  | .monthOfYear => .integer t.date.month
  | .quarter => .timestamp (.midnight t.date.startOfQuarter)
  | .quarterOfYear => .integer ((t.date.month - 1) / 3 + 1)
  | .year => .integer t.date.year

namespace Engine

variable {env : Environment} {e : Expr} {t : Timestamp}

/-- A string literal has a text for its value, so no cast is put around a timestamp. -/
theorem asTimestamp_eq_self (h : eval env e = some (.timestamp t)) : e.asTimestamp = e := by
  unfold Expr.asTimestamp Expr.isTemporalLiteral
  split
  · simp [eval] at h
  · rfl

theorem eval_truncatedTo (unit : String) (h : eval env e = some (.timestamp t)) :
    eval env (e.truncatedTo unit) = (t.truncatedTo? unit).map .timestamp := by
  simp [Expr.truncatedTo, Expr.string, eval, evalAll, h, call?]

theorem eval_fieldOf (field : String) (h : eval env e = some (.timestamp t)) :
    eval env (e.fieldOf field) = (t.field? field).map .integer := by
  rw [Expr.fieldOf, asTimestamp_eq_self h]
  cases hfield : t.field? field <;> simp [eval, h, hfield, cast?]

theorem eval_plus_oneDay (h : eval env e = some (.timestamp t)) :
    eval env (e.plus Expr.oneDay) = some (.timestamp (t.plusSeconds (86400 * 1))) := by
  simp [Expr.plus, Expr.oneDay, eval, h, interval?, operation?, moved]

theorem eval_minus_oneDay (h : eval env e = some (.timestamp t)) :
    eval env (e.minus Expr.oneDay) = some (.timestamp (t.plusSeconds (86400 * -1))) := by
  simp [Expr.minus, Expr.oneDay, eval, h, interval?, operation?, moved]

theorem eval_plus_integer {a b : Int} (h : eval env e = some (.integer a)) :
    eval env (e.plus (.integer b)) = integer? (a + b) := by
  simp only [Expr.plus, Expr.integer, eval, h, Option.bind_eq_bind, Option.bind_some, operation?]

theorem eval_dayOfWeek (h : eval env e = some (.timestamp t)) :
    eval env (e.truncate .dayOfWeek) = some (.integer (t.date.daysFromSunday + 1)) := by
  have hlt := t.date.daysFromSunday_lt
  have hfield : eval env (e.fieldOf "DOW") = some (.integer t.date.daysFromSunday) :=
    eval_fieldOf "DOW" h
  rw [Expr.truncate, eval_plus_integer hfield]
  apply integer?_eq_some
  omega

/-- A week from Sunday on is a week from Monday on, seen a day later. -/
theorem plusDays_monday (d : Date) :
    ((d.plusDays 1).plusDays (-(d.plusDays 1).daysFromMonday)).plusDays (-1) = d.startOfWeek := by
  apply Date.dayNumber_injective
  simp only [Date.dayNumber_plusDays, Date.daysFromMonday_eq, Date.dayNumber_startOfWeek]
  omega

theorem eval_startOfWeek (h : eval env e = some (.timestamp t)) :
    eval env e.startOfWeek = some (.timestamp (.midnight t.date.startOfWeek)) := by
  -- a day on, back to Monday, and a day back from there
  unfold Expr.startOfWeek
  rw [asTimestamp_eq_self h]
  have hmonday := eval_truncatedTo "week" (eval_plus_oneDay h)
  simp only [Timestamp.truncatedTo?, Option.map_some,
    Timestamp.date_plusSeconds_days t (show (0 : Int) ≤ 1 by decide)] at hmonday
  rw [eval_minus_oneDay hmonday, Timestamp.midnight_plusSeconds_days, plusDays_monday]

/-- The value of an expression at a granularity is the value of its timestamp at it. -/
theorem eval_truncate (g : Granularity) (h : eval env e = some (.timestamp t)) :
    eval env (e.truncate g) = some (g.value t) := by
  have hcast := asTimestamp_eq_self h
  cases g with
  | default => exact h
  | minute | hour | month | quarter =>
    simp only [Expr.truncate]
    rw [hcast, eval_truncatedTo _ h]
    rfl
  | minuteOfHour | hourOfDay | dayOfMonth | dayOfYear | monthOfYear | quarterOfYear | year =>
    simp only [Expr.truncate]
    rw [eval_fieldOf _ h]
    rfl
  | day => simp [Expr.truncate, eval, h, cast?, Granularity.value]
  | dayOfWeek => exact eval_dayOfWeek h
  | week => exact eval_startOfWeek h
  | weekOfYear => simp [Expr.truncate, hcast, eval, evalAll, h, call?, Granularity.value]

end Engine
end SqlDialect
