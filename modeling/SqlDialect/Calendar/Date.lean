/-!
# Dates

Dates of the proleptic Gregorian calendar, without a limit on the year. A year is an integer, and
year zero comes before year one.
-/

namespace SqlDialect

/-- Whether a year has a 29th of February. -/
def isLeapYear (year : Int) : Bool :=
  year % 4 = 0 && (year % 100 ≠ 0 || year % 400 = 0)

/-- The number of days of a month; zero for a number that is no month. -/
def daysInMonth (year : Int) : Nat → Nat
  | 1 | 3 | 5 | 7 | 8 | 10 | 12 => 31
  | 4 | 6 | 9 | 11 => 30
  | 2 => if isLeapYear year then 29 else 28
  | _ => 0

/-- A day of the calendar. -/
structure Date where
  /-- The year. -/
  year : Int
  /-- The month, from one. -/
  month : Nat
  /-- The day of the month, from one. -/
  day : Nat
  /-- The month has this day. -/
  valid : 1 ≤ day ∧ day ≤ daysInMonth year month
deriving DecidableEq

namespace Date

/-- The date with these parts, if there is one. -/
def ofParts? (year : Int) (month day : Nat) : Option Date :=
  if h : 1 ≤ day ∧ day ≤ daysInMonth year month then some ⟨year, month, day, h⟩ else none

/-- The days of a year before a month. -/
def daysBeforeMonth (year : Int) (month : Nat) : Nat :=
  (List.range' 1 (month - 1)).foldl (fun days month => days + daysInMonth year month) 0

/-- The days from the first day of year one to the first day of a year. -/
def daysBeforeYear (year : Int) : Int :=
  let past := year - 1
  365 * past + past / 4 - past / 100 + past / 400

/-- The days from the first day of year one to a date. -/
def dayNumber (d : Date) : Int :=
  daysBeforeYear d.year + daysBeforeMonth d.year d.month + d.day - 1

/-- The day number of the first of January 1970. -/
def epochDay : Int := 719162

theorem ofParts?_eq_some_iff {year : Int} {month day : Nat} {d : Date} :
    ofParts? year month day = some d ↔ d.year = year ∧ d.month = month ∧ d.day = day := by
  unfold ofParts?
  split
  · next h =>
    constructor
    · intro heq
      simp only [Option.some.injEq] at heq
      subst heq
      exact ⟨rfl, rfl, rfl⟩
    · rintro ⟨rfl, rfl, rfl⟩
      rfl
  · next h =>
    constructor
    · intro heq
      simp at heq
    · rintro ⟨rfl, rfl, rfl⟩
      exact absurd d.valid h

/-- The parts of a date give it back. -/
@[simp] theorem ofParts?_parts (d : Date) : ofParts? d.year d.month d.day = some d :=
  ofParts?_eq_some_iff.2 ⟨rfl, rfl, rfl⟩

/-- A date lies in one of the twelve months. -/
theorem month_mem (d : Date) : 1 ≤ d.month ∧ d.month ≤ 12 := by
  have h := d.valid
  unfold daysInMonth at h
  split at h <;> omega

end Date
end SqlDialect
