import SqlDialect.Calendar.Layout
import SqlDialect.Proofs.Calendar.Weeks

/-!
# Timestamps

Points in time as the engine has them, on a calendar without limits and without a zone. A leap
second is kept by nanoseconds above a billion, in the last second of a minute; moving away from it
leaves it, forwards from its start and backwards from its end.
-/

namespace SqlDialect

/-- A point in time, to the nanosecond. -/
structure Timestamp where
  /-- The day. -/
  date : Date
  /-- The seconds since midnight. -/
  second : Nat
  /-- The nanoseconds since the start of the second. -/
  nano : Nat
  /-- The parts are in range. -/
  valid : second < 86400 ∧ nano < 2000000000 ∧ (1000000000 ≤ nano → second % 60 = 59)
deriving DecidableEq

namespace Timestamp

/-- The first moment of a day. -/
def midnight (d : Date) : Timestamp :=
  ⟨d, 0, 0, by decide⟩

/-- The hour, from zero. -/
def hour (t : Timestamp) : Nat :=
  t.second / 3600

/-- The minute of the hour, from zero. -/
def minute (t : Timestamp) : Nat :=
  t.second / 60 % 60

/-- The second of the day from which some seconds are counted. A leap second counts as its end when
they are counted back. -/
def countedFrom (t : Timestamp) (n : Int) : Int :=
  if 1000000000 ≤ t.nano ∧ n < 0 then t.second + 1 else t.second

/-- The timestamp some whole seconds later, or earlier if the number is negative. -/
def plusSeconds (t : Timestamp) (n : Int) : Timestamp :=
  if n = 0 then t
  else
    ⟨t.date.plusDays ((t.countedFrom n + n) / 86400), ((t.countedFrom n + n) % 86400).toNat,
      t.nano % 1000000000, by omega⟩

/-- The timestamp some months later at the same time of day, or earlier if the number is
negative. -/
def plusMonths (t : Timestamp) (n : Int) : Timestamp :=
  { t with date := t.date.plusMonths n }

@[simp] theorem plusMonths_zero (t : Timestamp) : t.plusMonths 0 = t := by
  simp [plusMonths]

theorem countedFrom_of_nonneg (t : Timestamp) {n : Int} (h : 0 ≤ n) :
    t.countedFrom n = t.second :=
  if_neg (by omega)

@[simp] theorem countedFrom_midnight (d : Date) (n : Int) : (midnight d).countedFrom n = 0 :=
  if_neg (by simp [midnight])

/-- Whole days move the date by as many days. Only from a leap second back they may not, since its
end can be the next midnight. -/
theorem date_plusSeconds_days (t : Timestamp) {n : Int} (h : 0 ≤ n) :
    (t.plusSeconds (86400 * n)).date = t.date.plusDays n := by
  have hsecond := t.valid.1
  unfold plusSeconds
  split_ifs with hzero
  · have hn : n = 0 := by omega
    rw [hn, Date.plusDays_zero]
  · have hdays : ((t.second : Int) + 86400 * n) / 86400 = n := by omega
    have hstart := countedFrom_of_nonneg t (show 0 ≤ 86400 * n by omega)
    simp only [hstart, hdays]

/-- Whole days lead from midnight to midnight. -/
theorem midnight_plusSeconds_days (d : Date) (n : Int) :
    (midnight d).plusSeconds (86400 * n) = midnight (d.plusDays n) := by
  unfold plusSeconds
  split_ifs with hzero
  · have hn : n = 0 := by omega
    rw [hn, Date.plusDays_zero]
  · have hdays : (0 + 86400 * n) / 86400 = n := by omega
    have hrest : ((0 + 86400 * n) % 86400).toNat = 0 := by omega
    simp only [countedFrom_midnight, hdays, hrest]
    rfl

/-- The first moment of the minute of a timestamp. -/
def startOfMinute (t : Timestamp) : Timestamp :=
  ⟨t.date, 3600 * t.hour + 60 * t.minute, 0, by
    have := t.valid.1
    unfold hour minute
    omega⟩

/-- The first moment of the hour of a timestamp. -/
def startOfHour (t : Timestamp) : Timestamp :=
  ⟨t.date, 3600 * t.hour, 0, by
    have := t.valid.1
    unfold hour
    omega⟩

/-- The start of the unit that contains a timestamp. Weeks start on Monday. -/
def truncatedTo? (unit : String) (t : Timestamp) : Option Timestamp :=
  match unit with
  | "minute" => some t.startOfMinute
  | "hour" => some t.startOfHour
  | "day" => some (midnight t.date)
  | "week" => some (midnight (t.date.plusDays (-t.date.daysFromMonday)))
  | "month" => some (midnight t.date.startOfMonth)
  | "quarter" => some (midnight t.date.startOfQuarter)
  | "year" => some (midnight t.date.startOfYear)
  | _ => none

/-- A field of a timestamp. The days of the week are counted from Sunday, which is zero. -/
def field? (field : String) (t : Timestamp) : Option Int :=
  match field with
  | "MINUTE" => some t.minute
  | "HOUR" => some t.hour
  | "DOW" => some t.date.daysFromSunday
  | "DAY" => some t.date.day
  | "DOY" => some (t.date.dayOfYear + 1)
  | "MONTH" => some t.date.month
  | "QUARTER" => some ((t.date.month - 1) / 3 + 1)
  | "YEAR" => some t.date.year
  | _ => none

/-! ## Reading -/

/-- A timestamp of a date and a time with a fraction of the second. -/
def ofDateTime? (t : DateTime) (nano : Nat) : Option Timestamp :=
  let nano := if t.time.isLeapSecond then 1000000000 + nano else nano
  if h : t.time.secondOfDay < 86400 ∧ nano < 2000000000 ∧
      (1000000000 ≤ nano → t.time.secondOfDay % 60 = 59) then
    some ⟨t.date, t.time.secondOfDay, nano, h⟩
  else none

/-- The nanoseconds after the point of a text; digits after the ninth do not count. -/
def nanosOf (cs : List Char) : Nat :=
  match cs.dropWhile (· ≠ '.') with
  | [] => 0
  | _ :: ds => Text.digitsValue ((ds ++ List.replicate 9 '0').take 9)

/-- The layouts of the texts that the engine casts to a timestamp. -/
def layouts : List (List Calendar.Item) :=
  [Calendar.dateLayout ++ [.blanks] ++ Calendar.secondLayout ++ [.fraction],
    Calendar.dateLayout ++ [.exactly 'T'] ++ Calendar.secondLayout ++ [.fraction],
    Calendar.dateLayout ++ [.blanks] ++ Calendar.minuteLayout,
    Calendar.dateLayout]

/-- The timestamp that a text denotes. -/
def ofText? (s : String) : Option Timestamp := do
  let t ← layouts.findSome? fun layout => (Calendar.read layout s.toList).toOption
  ofDateTime? t (nanosOf s.toList)

end Timestamp
end SqlDialect
