import SqlDialect.Proofs.Engine.Floors
import SqlDialect.Proofs.Engine.TemporalLiterals

/-!
# Truncations and extractions of one instant

Twelve granularities describe a point in time, each by an expression of its own: truncations to the
minute, the hour, the day, the month and the quarter, and numbers taken from it. Main statement:
they fit together, so that a truncation is found again from a coarser one and a number.
-/

namespace SqlDialect

namespace Date

theorem ofParts?_startOfMonth (d : Date) :
    ofParts? d.year d.month 1 = some d.startOfMonth :=
  ofParts?_eq_some_iff.2 ⟨rfl, rfl, rfl⟩

theorem ofParts?_startOfYear (d : Date) : ofParts? d.year 1 1 = some d.startOfYear :=
  ofParts?_eq_some_iff.2 ⟨rfl, rfl, rfl⟩

/-- The number of the quarter of a date, from one. -/
def quarter (d : Date) : Nat :=
  (d.month - 1) / 3 + 1

theorem ofParts?_startOfQuarter (d : Date) :
    ofParts? d.year (3 * d.quarter - 2) 1 = some d.startOfQuarter := by
  refine ofParts?_eq_some_iff.2 ⟨rfl, ?_, rfl⟩
  show (d.month - 1) / 3 * 3 + 1 = 3 * ((d.month - 1) / 3 + 1) - 2
  omega

theorem startOfMonth_plusDays (d : Date) : d.startOfMonth.plusDays (d.day - 1) = d := by
  apply dayNumber_injective
  rw [dayNumber_plusDays]
  simp only [dayNumber, startOfMonth, firstOfMonth]
  omega

theorem startOfYear_plusDays (d : Date) : d.startOfYear.plusDays d.dayOfYear = d := by
  apply dayNumber_injective
  rw [dayNumber_plusDays, dayNumber_startOfYear, dayNumber_eq]

end Date

namespace Timestamp

/-- Outside of leap seconds, time passes evenly. -/
theorem position_plusSeconds {t : Timestamp} (h : t.nano < 1000000000) (n : Int) :
    (t.plusSeconds n).position = t.position + 2000000000 * n := by
  have hstart : t.countedFrom n = t.second := if_neg (by omega)
  unfold plusSeconds
  split_ifs with hzero
  · rw [hzero]
    omega
  · simp only [position, Date.dayNumber_plusDays, hstart]
    omega

theorem startOfHour_plusSeconds (t : Timestamp) :
    t.startOfHour.plusSeconds (60 * t.minute) = t.startOfMinute := by
  have hnano : t.startOfHour.nano < 1000000000 := Nat.zero_lt_succ _
  apply position_injective
  rw [position_plusSeconds hnano]
  simp only [position, startOfHour, startOfMinute]
  omega

theorem midnight_plusSeconds_hour (t : Timestamp) :
    (midnight t.date).plusSeconds (3600 * t.hour) = t.startOfHour := by
  have hnano : (midnight t.date).nano < 1000000000 := Nat.zero_lt_succ _
  apply position_injective
  rw [position_plusSeconds hnano]
  simp only [position, midnight, startOfHour]
  omega

end Timestamp

/-- What twelve granularities tell of a point in time. -/
structure Readings where
  minute : Timestamp
  minuteOfHour : Nat
  hour : Timestamp
  hourOfDay : Nat
  day : Date
  dayOfMonth : Nat
  dayOfYear : Nat
  month : Timestamp
  monthOfYear : Nat
  quarter : Timestamp
  quarterOfYear : Nat
  year : Int

namespace Readings

/-- Whether these are the values of an expression at the granularities. -/
structure Of (env : Engine.Environment) (e : Expr) (r : Readings) : Prop where
  minute : Engine.eval env (e.truncate .minute) = some (.timestamp r.minute)
  minuteOfHour : Engine.eval env (e.truncate .minuteOfHour) = some (.integer r.minuteOfHour)
  hour : Engine.eval env (e.truncate .hour) = some (.timestamp r.hour)
  hourOfDay : Engine.eval env (e.truncate .hourOfDay) = some (.integer r.hourOfDay)
  day : Engine.eval env (e.truncate .day) = some (.date r.day)
  dayOfMonth : Engine.eval env (e.truncate .dayOfMonth) = some (.integer r.dayOfMonth)
  dayOfYear : Engine.eval env (e.truncate .dayOfYear) = some (.integer r.dayOfYear)
  month : Engine.eval env (e.truncate .month) = some (.timestamp r.month)
  monthOfYear : Engine.eval env (e.truncate .monthOfYear) = some (.integer r.monthOfYear)
  quarter : Engine.eval env (e.truncate .quarter) = some (.timestamp r.quarter)
  quarterOfYear : Engine.eval env (e.truncate .quarterOfYear) = some (.integer r.quarterOfYear)
  year : Engine.eval env (e.truncate .year) = some (.integer r.year)

/-- Whether the readings fit together. -/
structure Agree (r : Readings) : Prop where
  minute_eq : r.hour.plusSeconds (60 * r.minuteOfHour) = r.minute
  hour_eq : (Timestamp.midnight r.day).plusSeconds (3600 * r.hourOfDay) = r.hour
  month_eq : (Date.ofParts? r.year r.monthOfYear 1).map .midnight = some r.month
  day_eq_of_month : r.month.date.plusDays (r.dayOfMonth - 1) = r.day
  day_eq_of_year : (Date.ofParts? r.year 1 1).map (·.plusDays (r.dayOfYear - 1)) = some r.day
  quarter_eq : (Date.ofParts? r.year (3 * r.quarterOfYear - 2) 1).map .midnight = some r.quarter

/-- The readings of a timestamp, told by the calendar. -/
def ofTimestamp (t : Timestamp) : Readings where
  minute := t.startOfMinute
  minuteOfHour := t.minute
  hour := t.startOfHour
  hourOfDay := t.hour
  day := t.date
  dayOfMonth := t.date.day
  dayOfYear := t.date.dayOfYear + 1
  month := .midnight t.date.startOfMonth
  monthOfYear := t.date.month
  quarter := .midnight t.date.startOfQuarter
  quarterOfYear := t.date.quarter
  year := t.date.year

theorem agree_ofTimestamp (t : Timestamp) : (ofTimestamp t).Agree where
  minute_eq := t.startOfHour_plusSeconds
  hour_eq := t.midnight_plusSeconds_hour
  month_eq := by
    show (Date.ofParts? t.date.year t.date.month 1).map _ = _
    rw [Date.ofParts?_startOfMonth]
    rfl
  day_eq_of_month := t.date.startOfMonth_plusDays
  day_eq_of_year := by
    have hpast : ((t.date.dayOfYear + 1 : Nat) : Int) - 1 = t.date.dayOfYear := by omega
    show (Date.ofParts? t.date.year 1 1).map (·.plusDays ((t.date.dayOfYear + 1 : Nat) - 1)) = _
    rw [Date.ofParts?_startOfYear, hpast, Option.map_some, Date.startOfYear_plusDays]
    rfl
  quarter_eq := by
    show (Date.ofParts? t.date.year (3 * t.date.quarter - 2) 1).map _ = _
    rw [Date.ofParts?_startOfQuarter]
    rfl

end Readings

namespace Engine

theorem StandsFor.readings {env : Environment} {e : Expr} {t : Timestamp}
    (h : StandsFor env e t) : (Readings.ofTimestamp t).Of env e where
  minute := h.eval_truncate (by decide)
  minuteOfHour := h.eval_truncate (by decide)
  hour := h.eval_truncate (by decide)
  hourOfDay := h.eval_truncate (by decide)
  day := h.eval_truncate (by decide)
  dayOfMonth := h.eval_truncate (by decide)
  dayOfYear := h.eval_truncate (by decide)
  month := h.eval_truncate (by decide)
  monthOfYear := h.eval_truncate (by decide)
  quarter := h.eval_truncate (by decide)
  quarterOfYear := by
    have hquarter := t.date.month_mem
    rw [h.eval_truncate (by decide)]
    simp only [Granularity.value, Readings.ofTimestamp, Date.quarter, Option.some.injEq,
      Value.integer.injEq]
    omega
  year := h.eval_truncate (by decide)

/-- What stands for a point in time has a value at each of the twelve granularities, these values
fit together, and they lead to the point in time. -/
theorem readings_agree {env : Environment} {e : Expr} {t : Timestamp} (h : StandsFor env e t) :
    ∃ r : Readings, r.Of env e ∧ r.Agree ∧ r.day = t.date ∧ r.minute ≤ t := by
  refine ⟨.ofTimestamp t, h.readings, Readings.agree_ofTimestamp t, rfl, ?_⟩
  exact t.isGreatest_startOfMinute.1.2

/-- A literal of the last minute of a leap day. -/
theorem readings_agree_on_leap_day :
    ∃ (t : DateTime) (r : Readings), String.ofList t.chars = "2024-02-29 23:59:30" ∧
      r.Of ⟨.empty, .midnight t.date⟩ (.string (String.ofList t.chars)) ∧ r.Agree ∧
      r.day = t.date ∧ r.minute ≤ .ofDateTime t := by
  let t : DateTime := ⟨⟨2024, 2, 29, by decide⟩, ⟨23, 59, 30, by decide⟩⟩
  have hyear : t.date.HasPlainYear := by
    unfold Date.HasPlainYear
    decide
  obtain ⟨r, hof, hagree, hday, hminute⟩ :=
    readings_agree (@StandsFor.dateTime ⟨.empty, .midnight t.date⟩ t hyear (by decide))
  exact ⟨t, r, by decide +kernel, hof, hagree, hday, hminute⟩

end Engine
end SqlDialect
