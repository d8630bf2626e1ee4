import Mathlib.Order.Bounds.Basic
import SqlDialect.Proofs.Calendar.Weeks

/-!
# Starts of weeks, months and quarters

Dates in the order of time. The start of the week, of the month or of the quarter of a date is the
greatest of the dates up to it that start such a unit. The order of weeks is integer arithmetic on
day numbers; months and quarters have different lengths, so their order is read off the parts.
-/

namespace SqlDialect
namespace Date

instance : LE Date where
  le d e := ¬ e.Before d

theorem le_iff {d e : Date} : d ≤ e ↔ d.dayNumber ≤ e.dayNumber := by
  show ¬ e.Before d ↔ _
  rw [before_iff]
  omega

instance : PartialOrder Date where
  le := (· ≤ ·)
  le_refl d := le_iff.2 (Int.le_refl _)
  le_trans d e f hde hef := le_iff.2 (Int.le_trans (le_iff.1 hde) (le_iff.1 hef))
  le_antisymm d e hde hed := dayNumber_injective (Int.le_antisymm (le_iff.1 hde) (le_iff.1 hed))

/-- Whether a date is a Sunday. -/
def StartsWeek (d : Date) : Prop :=
  d.daysFromSunday = 0

/-- Whether a date is the first day of a month. -/
def StartsMonth (d : Date) : Prop :=
  d.day = 1

/-- Whether a date is the first day of January, April, July or October. -/
def StartsQuarter (d : Date) : Prop :=
  d.day = 1 ∧ d.month % 3 = 1

theorem StartsQuarter.startsMonth {d : Date} (h : d.StartsQuarter) : d.StartsMonth :=
  h.1

theorem isGreatest_startOfWeek (d : Date) :
    IsGreatest {e | e.StartsWeek ∧ e ≤ d} d.startOfWeek := by
  obtain ⟨hsunday, hle, hlatest⟩ := d.isLatestSunday_startOfWeek
  refine ⟨⟨hsunday, hle⟩, ?_⟩
  rintro e ⟨he, hed⟩
  exact hlatest e he hed

theorem isGreatest_startOfMonth (d : Date) :
    IsGreatest {e | e.StartsMonth ∧ e ≤ d} d.startOfMonth := by
  have hday := d.valid.1
  refine ⟨⟨rfl, ?_⟩, ?_⟩
  · show ¬ d.Before d.startOfMonth
    simp only [Before, startOfMonth, firstOfMonth]
    omega
  · rintro e ⟨he, hed⟩
    have hbefore : ¬ d.Before e := hed
    show ¬ d.startOfMonth.Before e
    simp only [StartsMonth] at he
    simp only [Before, startOfMonth, firstOfMonth] at hbefore ⊢
    omega

theorem isGreatest_startOfQuarter (d : Date) :
    IsGreatest {e | e.StartsQuarter ∧ e ≤ d} d.startOfQuarter := by
  have hday := d.valid.1
  have hmonth := d.month_mem
  refine ⟨⟨⟨rfl, ?_⟩, ?_⟩, ?_⟩
  · simp only [startOfQuarter, firstOfMonth]
    omega
  · show ¬ d.Before d.startOfQuarter
    simp only [Before, startOfQuarter, firstOfMonth]
    omega
  · rintro e ⟨⟨heday, hequarter⟩, hed⟩
    have hbefore : ¬ d.Before e := hed
    show ¬ d.startOfQuarter.Before e
    simp only [Before, startOfQuarter, firstOfMonth] at hbefore ⊢
    omega

end Date
end SqlDialect
