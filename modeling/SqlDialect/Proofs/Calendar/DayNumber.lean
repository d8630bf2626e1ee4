import SqlDialect.Calendar.Date
import Mathlib.Tactic.SplitIfs

/-!
# Dates and day numbers

Dates are counted by the integers: every integer is the day number of exactly one date, and a later
date has a greater number. Facts about the calendar become facts of integer arithmetic this way. The
date with a given number is found by its year first, which a quotient gives up to one, and then by
going through the months.
-/

namespace SqlDialect

/-- The number of days of a year. -/
def daysInYear (year : Int) : Nat :=
  if isLeapYear year then 366 else 365

theorem one_le_daysInMonth (year : Int) {month : Nat} (h : 1 ≤ month ∧ month ≤ 12) :
    1 ≤ daysInMonth year month := by
  fun_cases daysInMonth year month with
  | case14 => grind
  | _ => decide

namespace Date

/-! ## Months of a year -/

theorem daysBeforeMonth_one (year : Int) : daysBeforeMonth year 1 = 0 :=
  rfl

theorem daysBeforeMonth_succ (year : Int) {month : Nat} (h : 1 ≤ month) :
    daysBeforeMonth year (month + 1) = daysBeforeMonth year month + daysInMonth year month := by
  obtain ⟨past, rfl⟩ : ∃ past, month = past + 1 := ⟨month - 1, by omega⟩
  unfold daysBeforeMonth
  rw [Nat.add_sub_cancel, Nat.add_sub_cancel, List.range'_1_concat, List.foldl_append]
  simp [Nat.add_comm]

theorem daysBeforeMonth_mono (year : Int) {month month' : Nat} (h : 1 ≤ month)
    (hle : month ≤ month') : daysBeforeMonth year month ≤ daysBeforeMonth year month' := by
  induction hle with
  | refl => exact Nat.le_refl _
  | @step last hlast ih =>
    have hlast : month ≤ last := hlast
    rw [daysBeforeMonth_succ year (by omega)]
    omega

/-- The days of all twelve months are those of the year. -/
theorem daysBeforeMonth_thirteen (year : Int) : daysBeforeMonth year 13 = daysInYear year := by
  cases h : isLeapYear year <;> simp [daysBeforeMonth, daysInYear, daysInMonth, List.range', h]

/-! ## Years -/

theorem daysBeforeYear_succ (year : Int) :
    daysBeforeYear (year + 1) = daysBeforeYear year + daysInYear year := by
  unfold daysBeforeYear daysInYear
  cases h : isLeapYear year with
  | false =>
    simp only [isLeapYear, Bool.and_eq_false_iff, Bool.or_eq_false_iff, decide_eq_false_iff_not,
      decide_not, Bool.not_eq_false', decide_eq_true_eq] at h
    simp only [Bool.false_eq_true, if_false]
    omega
  | true =>
    simp only [isLeapYear, Bool.and_eq_true, Bool.or_eq_true, decide_eq_true_eq] at h
    simp only [if_true]
    omega

theorem daysBeforeYear_add_le {year year' : Int} (h : year < year') :
    daysBeforeYear year + daysInYear year ≤ daysBeforeYear year' := by
  rw [← daysBeforeYear_succ]
  simp only [daysBeforeYear]
  omega

/-- The year of a day number. The quotient misses it by one at most. -/
def yearOfDay (n : Int) : Int :=
  let year := 400 * n / 146097 + 1
  if n < daysBeforeYear year then year - 1
  else if daysBeforeYear (year + 1) ≤ n then year + 1
  else year

theorem yearOfDay_spec (n : Int) :
    daysBeforeYear (yearOfDay n) ≤ n ∧ n < daysBeforeYear (yearOfDay n + 1) := by
  -- 400 years have 146097 days, so the quotient is off by less than the leap days of four years
  unfold yearOfDay
  simp only
  split_ifs with hbefore hafter
  · simp only [daysBeforeYear] at *
    omega
  · simp only [daysBeforeYear] at *
    omega
  · omega

/-! ## Dates of day numbers -/

/-- The month and the day of the month that some days after the first of a month are, when at most
so many other months come after it. -/
def monthAndDay (year : Int) : (left month past : Nat) → Nat × Nat
  | 0, month, past => (month, past + 1)
  | left + 1, month, past =>
    if past < daysInMonth year month then (month, past + 1)
    else monthAndDay year left (month + 1) (past - daysInMonth year month)

/-- Whether a month of a year has a day and so many days of the year come before this day. -/
structure IsDayOfYear (year : Int) (month day past : Nat) : Prop where
  valid : 1 ≤ day ∧ day ≤ daysInMonth year month
  past_eq : daysBeforeMonth year month + day = past + 1

theorem isDayOfYear_monthAndDay (year : Int) (left month past : Nat) (hmonth : 1 ≤ month)
    (h : daysBeforeMonth year month + past < daysBeforeMonth year (month + left + 1)) :
    IsDayOfYear year (monthAndDay year left month past).1 (monthAndDay year left month past).2
      (daysBeforeMonth year month + past) := by
  induction left generalizing month past with
  | zero =>
    rw [Nat.add_zero, daysBeforeMonth_succ year hmonth] at h
    exact ⟨by simp only [monthAndDay]; omega, by simp only [monthAndDay]; omega⟩
  | succ left ih =>
    unfold monthAndDay
    split_ifs with hpast
    · exact ⟨by simp only; omega, by simp only; omega⟩
    · have hnext := daysBeforeMonth_succ year hmonth
      have hsame : daysBeforeMonth year (month + 1) + (past - daysInMonth year month) =
          daysBeforeMonth year month + past := by omega
      rw [← hsame]
      apply ih _ _ (by omega)
      rw [hsame, show month + 1 + left + 1 = month + (left + 1) + 1 by omega]
      exact h

/-- The days from the first day of the year of a day number to this day. -/
def pastInYear (n : Int) : Nat :=
  (n - daysBeforeYear (yearOfDay n)).toNat

theorem daysBeforeYear_add_pastInYear (n : Int) :
    daysBeforeYear (yearOfDay n) + pastInYear n = n := by
  have := (yearOfDay_spec n).1
  unfold pastInYear
  omega

theorem pastInYear_lt (n : Int) : pastInYear n < daysInYear (yearOfDay n) := by
  have hyear := (yearOfDay_spec n).2
  have hpast := daysBeforeYear_add_pastInYear n
  rw [daysBeforeYear_succ] at hyear
  omega

theorem isDayOfYear_pastInYear (n : Int) :
    IsDayOfYear (yearOfDay n) (monthAndDay (yearOfDay n) 11 1 (pastInYear n)).1
      (monthAndDay (yearOfDay n) 11 1 (pastInYear n)).2 (pastInYear n) := by
  have hlt : 0 + pastInYear n < daysBeforeMonth (yearOfDay n) 13 := by
    rw [daysBeforeMonth_thirteen, Nat.zero_add]
    exact pastInYear_lt n
  have h := isDayOfYear_monthAndDay (yearOfDay n) 11 1 (pastInYear n) (Nat.le_refl 1) hlt
  rwa [daysBeforeMonth_one, Nat.zero_add] at h

/-- The date with a day number. -/
def ofDayNumber (n : Int) : Date :=
  let monthAndDay := monthAndDay (yearOfDay n) 11 1 (pastInYear n)
  ⟨yearOfDay n, monthAndDay.1, monthAndDay.2, (isDayOfYear_pastInYear n).valid⟩

@[simp] theorem dayNumber_ofDayNumber (n : Int) : (ofDayNumber n).dayNumber = n := by
  have hmonth := (isDayOfYear_pastInYear n).past_eq
  have hyear := daysBeforeYear_add_pastInYear n
  unfold dayNumber ofDayNumber
  simp only
  omega

/-! ## Order -/

/-- Whether a date comes before another one: the year decides, then the month, then the day. -/
def Before (d e : Date) : Prop :=
  d.year < e.year ∨ d.year = e.year ∧ (d.month < e.month ∨ d.month = e.month ∧ d.day < e.day)

/-- The days of the year before a date. -/
def dayOfYear (d : Date) : Nat :=
  daysBeforeMonth d.year d.month + d.day - 1

theorem dayNumber_eq (d : Date) : d.dayNumber = daysBeforeYear d.year + d.dayOfYear := by
  have := d.valid.1
  unfold dayNumber dayOfYear
  omega

theorem dayOfYear_lt_daysBeforeMonth (d : Date) :
    d.dayOfYear < daysBeforeMonth d.year (d.month + 1) := by
  have hvalid := d.valid
  rw [daysBeforeMonth_succ d.year d.month_mem.1]
  unfold dayOfYear
  omega

theorem dayOfYear_lt (d : Date) : d.dayOfYear < daysInYear d.year := by
  have hmonth := d.month_mem
  have hlt := d.dayOfYear_lt_daysBeforeMonth
  have hmono := daysBeforeMonth_mono d.year (by omega) (show d.month + 1 ≤ 13 by omega)
  rw [daysBeforeMonth_thirteen] at hmono
  omega

theorem Before.dayNumber_lt {d e : Date} (h : d.Before e) : d.dayNumber < e.dayNumber := by
  rw [dayNumber_eq, dayNumber_eq]
  rcases h with hyear | ⟨hyear, hmonth | ⟨hmonth, hday⟩⟩
  -- what is earlier ends before the later year, month or day starts
  · have hle := daysBeforeYear_add_le hyear
    have hlt := d.dayOfYear_lt
    omega
  · have hlt := d.dayOfYear_lt_daysBeforeMonth
    have hmono := daysBeforeMonth_mono d.year (by omega) (show d.month + 1 ≤ e.month by omega)
    have hvalid := e.valid.1
    unfold dayOfYear at *
    rw [hyear] at *
    omega
  · have hvalid := d.valid.1
    unfold dayOfYear
    rw [hyear, hmonth]
    omega

/-- Of two dates one comes first, or they are the same. -/
theorem before_or_eq_or_before (d e : Date) : d.Before e ∨ d = e ∨ e.Before d := by
  unfold Before
  cases d
  cases e
  simp only [Date.mk.injEq]
  omega

/-- The order of dates is the order of their numbers. -/
theorem before_iff {d e : Date} : d.Before e ↔ d.dayNumber < e.dayNumber := by
  refine ⟨Before.dayNumber_lt, fun h => ?_⟩
  rcases before_or_eq_or_before d e with hbefore | rfl | hafter
  · exact hbefore
  · omega
  · have := hafter.dayNumber_lt
    omega

theorem dayNumber_injective {d e : Date} (h : d.dayNumber = e.dayNumber) : d = e := by
  rcases before_or_eq_or_before d e with hbefore | heq | hafter
  · have := hbefore.dayNumber_lt
    omega
  · exact heq
  · have := hafter.dayNumber_lt
    omega

theorem dayNumber_inj {d e : Date} : d.dayNumber = e.dayNumber ↔ d = e :=
  ⟨dayNumber_injective, fun h => h ▸ rfl⟩

@[simp] theorem ofDayNumber_dayNumber (d : Date) : ofDayNumber d.dayNumber = d :=
  dayNumber_injective (dayNumber_ofDayNumber d.dayNumber)

/-! ## Moving dates -/

/-- The date some days later, or earlier if the number is negative. -/
def plusDays (d : Date) (n : Int) : Date :=
  ofDayNumber (d.dayNumber + n)

@[simp] theorem dayNumber_plusDays (d : Date) (n : Int) :
    (d.plusDays n).dayNumber = d.dayNumber + n :=
  dayNumber_ofDayNumber _

@[simp] theorem plusDays_zero (d : Date) : d.plusDays 0 = d :=
  dayNumber_injective (by simp)

@[simp] theorem plusDays_plusDays (d : Date) (m n : Int) :
    (d.plusDays m).plusDays n = d.plusDays (m + n) :=
  dayNumber_injective (by simp [Int.add_assoc])

/-- The date some months later, or earlier if the number is negative. A day that its month does not
have becomes the last day of the month. -/
def plusMonths (d : Date) (n : Int) : Date :=
  let months := 12 * d.year + (d.month - 1 : Int) + n
  let year := months / 12
  let month := (months % 12).toNat + 1
  ⟨year, month, min d.day (daysInMonth year month), by
    have hday := d.valid.1
    have hmonth := one_le_daysInMonth year (show 1 ≤ month ∧ month ≤ 12 by omega)
    omega⟩

@[simp] theorem plusMonths_zero (d : Date) : d.plusMonths 0 = d := by
  have hmonth := d.month_mem
  have hday := d.valid.2
  have hyear' : (12 * d.year + (d.month - 1 : Int) + 0) / 12 = d.year := by omega
  have hmonth' : ((12 * d.year + (d.month - 1 : Int) + 0) % 12).toNat + 1 = d.month := by omega
  cases d
  simp only [plusMonths, hyear', hmonth', Date.mk.injEq, true_and]
  exact Nat.min_eq_left hday

/-- A month before the last day of March is the last day of February. -/
example : (Date.ofParts? 2024 3 31).map (plusMonths · (-1)) = Date.ofParts? 2024 2 29 := by decide

/-- The first day of a month. -/
def firstOfMonth (year : Int) (month : Nat) (h : 1 ≤ month ∧ month ≤ 12) : Date :=
  ⟨year, month, 1, Nat.le_refl 1, one_le_daysInMonth year h⟩

theorem quarter_mem (d : Date) :
    1 ≤ (d.month - 1) / 3 * 3 + 1 ∧ (d.month - 1) / 3 * 3 + 1 ≤ 12 := by
  have := d.month_mem
  omega

theorem january_mem : 1 ≤ 1 ∧ 1 ≤ 12 := by decide

/-- The first day of the month of a date. -/
def startOfMonth (d : Date) : Date :=
  firstOfMonth d.year d.month d.month_mem

/-- The first day of the quarter of a date. -/
def startOfQuarter (d : Date) : Date :=
  firstOfMonth d.year ((d.month - 1) / 3 * 3 + 1) d.quarter_mem

/-- The first day of the year of a date. -/
def startOfYear (d : Date) : Date :=
  firstOfMonth d.year 1 january_mem

end Date
end SqlDialect
