import SqlDialect.Proofs.Calendar.DayNumber

/-!
# Weeks

The days of the week and the weeks of a year. A week starts on Sunday; the first of January is in
the first week of its year. Main statement: the number of the week tells the weeks of one year
apart.
-/

namespace SqlDialect
namespace Date

/-- The days from the last Monday to a date. The first day of year one is a Monday. -/
def daysFromMonday (d : Date) : Nat :=
  (d.dayNumber % 7).toNat

/-- The days from the last Sunday to a date. -/
def daysFromSunday (d : Date) : Nat :=
  ((d.dayNumber + 1) % 7).toNat

theorem daysFromMonday_eq (d : Date) : (d.daysFromMonday : Int) = d.dayNumber % 7 := by
  unfold daysFromMonday
  omega

theorem daysFromSunday_eq (d : Date) : (d.daysFromSunday : Int) = (d.dayNumber + 1) % 7 := by
  unfold daysFromSunday
  omega

theorem daysFromSunday_lt (d : Date) : d.daysFromSunday < 7 := by
  have := d.daysFromSunday_eq
  omega

/-- The 10th of March 2024 is a Sunday. -/
example : (Date.ofParts? 2024 3 10).map daysFromSunday = some 0 := by decide

/-- The number of the week of a date in its year. Weeks start on Sunday, and the first of January is
in the first week. -/
def weekOfYear (d : Date) : Int :=
  (d.dayOfYear + d.startOfYear.daysFromSunday) / 7 + 1

/-- The Sunday on which the week of a date starts. -/
def startOfWeek (d : Date) : Date :=
  d.plusDays (-d.daysFromSunday)

theorem dayNumber_startOfWeek (d : Date) :
    d.startOfWeek.dayNumber = d.dayNumber - (d.dayNumber + 1) % 7 := by
  unfold startOfWeek
  rw [dayNumber_plusDays, daysFromSunday_eq]
  rfl

/-- Whether a date is the last Sunday that does not come after another date. -/
structure IsLatestSunday (d sunday : Date) : Prop where
  isSunday : sunday.daysFromSunday = 0
  not_after : ¬ d.Before sunday
  latest : ∀ e : Date, e.daysFromSunday = 0 → ¬ d.Before e → ¬ sunday.Before e

theorem isLatestSunday_startOfWeek (d : Date) : IsLatestSunday d d.startOfWeek := by
  have hstart := d.dayNumber_startOfWeek
  refine ⟨?_, ?_, fun e he hd => ?_⟩
  · have := d.startOfWeek.daysFromSunday_eq
    omega
  · rw [before_iff]
    omega
  · have := e.daysFromSunday_eq
    rw [before_iff] at hd ⊢
    omega

theorem startOfWeek_plusDays (d : Date) : d.startOfWeek.plusDays d.daysFromSunday = d := by
  unfold startOfWeek
  rw [plusDays_plusDays, Int.add_left_neg, plusDays_zero]

theorem dayNumber_startOfYear (d : Date) : d.startOfYear.dayNumber = daysBeforeYear d.year := by
  simp [dayNumber, startOfYear, firstOfMonth, daysBeforeMonth]

/-- The number of the week counts the Sundays up to a date from those before its year. -/
theorem weekOfYear_eq (d : Date) :
    d.weekOfYear = (d.dayNumber + 1) / 7 - (daysBeforeYear d.year + 1) / 7 + 1 := by
  -- the day of the year and the weekday of its first day both start at the first of January
  have hday := d.dayNumber_eq
  have hfirst := d.startOfYear.daysFromSunday_eq
  rw [dayNumber_startOfYear] at hfirst
  unfold weekOfYear
  omega

/-- Dates of one year are in the same week exactly when their weeks have the same number. -/
theorem weekOfYear_eq_iff {d e : Date} (h : d.year = e.year) :
    d.weekOfYear = e.weekOfYear ↔ d.startOfWeek = e.startOfWeek := by
  rw [weekOfYear_eq, weekOfYear_eq, h, ← dayNumber_inj, dayNumber_startOfWeek,
    dayNumber_startOfWeek]
  omega

end Date
end SqlDialect
