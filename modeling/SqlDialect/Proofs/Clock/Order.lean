import Mathlib.Order.Compare
import SqlDialect.Proofs.Clock.NormalForm

/-!
# Order of clock readings

Two readings can be compared by what their texts say, part by part from the year to the second, or
by the points in time they come to. In one zone this is the same, because the day numbers of dates
and the seconds of a day have the order of their parts and a leap second comes last in its minute.
Between zones the points in time differ by what the offsets differ.
-/

namespace SqlDialect

open Calendar

/-! ## Dates and times -/

/-- Whether a time of day comes before another one; a leap second comes after all others of its
minute. -/
def TimeOfDay.Before (t u : TimeOfDay) : Prop :=
  t.hour < u.hour ∨ t.hour = u.hour ∧
    (t.minute < u.minute ∨ t.minute = u.minute ∧ t.second < u.second)

theorem TimeOfDay.before_iff {t u : TimeOfDay} :
    t.Before u ↔ t.secondOfDay < u.secondOfDay ∨
      t.secondOfDay = u.secondOfDay ∧ t.second ≠ 60 ∧ u.second = 60 := by
  have ht := t.valid
  have hu := u.valid
  unfold Before secondOfDay
  omega

namespace DateTime

/-- Compares the year, month, day, hour, minute and second; the first that differs decides. -/
def compareFields : DateTime → DateTime → Ordering :=
  compareLex (compareOn fun t => t.date.year) <| compareLex (compareOn fun t => t.date.month) <|
    compareLex (compareOn fun t => t.date.day) <| compareLex (compareOn fun t => t.time.hour) <|
      compareLex (compareOn fun t => t.time.minute) (compareOn fun t => t.time.second)

instance : Std.OrientedCmp compareFields :=
  inferInstanceAs (Std.OrientedCmp (compareLex _ _))

theorem compareFields_eq_lt_iff_before {t u : DateTime} :
    compareFields t u = .lt ↔
      t.date.Before u.date ∨ t.date = u.date ∧ t.time.Before u.time := by
  obtain ⟨⟨year, month, day, hday⟩, time⟩ := t
  obtain ⟨⟨year', month', day', hday'⟩, time'⟩ := u
  simp only [compareFields, compareLex, compareOn, Ordering.then_eq_lt, compare_lt_iff_lt,
    compare_eq_iff_eq, Date.Before, TimeOfDay.Before, Date.mk.injEq]
  tauto

/-- Fields have the order of the seconds since 1970. -/
theorem compareFields_eq_lt_iff {t u : DateTime} :
    compareFields t u = .lt ↔ t.epochSecond < u.epochSecond ∨
      t.epochSecond = u.epochSecond ∧ t.time.second ≠ 60 ∧ u.time.second = 60 := by
  have ht := t.time.secondOfDay_lt
  have hu := u.time.secondOfDay_lt
  rw [compareFields_eq_lt_iff_before, Date.before_iff, ← Date.dayNumber_inj,
    TimeOfDay.before_iff]
  unfold epochSecond
  omega

end DateTime

/-! ## Points in time -/

namespace ClockReading

/-- Compares the seconds since 1970, then the nanoseconds. -/
def compareInstants : ClockReading → ClockReading → Ordering :=
  compareLex (compareOn epochSecond) (compareOn subsecond)

instance : Std.OrientedCmp compareInstants :=
  inferInstanceAs (Std.OrientedCmp (compareLex _ _))

theorem subsecond_of_eq {r : ClockReading} (h : r.stamp.time.second = 60) :
    r.subsecond = 1000000000 :=
  if_pos (decide_eq_true h)

theorem subsecond_of_ne {r : ClockReading} (h : r.stamp.time.second ≠ 60) : r.subsecond = 0 := by
  apply if_neg
  rw [Bool.not_eq_true]
  exact decide_eq_false h

theorem subsecond_lt_iff {r s : ClockReading} :
    r.subsecond < s.subsecond ↔ r.stamp.time.second ≠ 60 ∧ s.stamp.time.second = 60 := by
  by_cases hr : r.stamp.time.second = 60
  · rw [subsecond_of_eq hr]
    by_cases hs : s.stamp.time.second = 60
    · simp [subsecond_of_eq hs, hr]
    · simp [subsecond_of_ne hs, hr]
  · rw [subsecond_of_ne hr]
    by_cases hs : s.stamp.time.second = 60
    · simp [subsecond_of_eq hs, hr, hs]
    · simp [subsecond_of_ne hs, hs]

theorem compareInstants_eq_lt_iff {r s : ClockReading} (h : r.offset = s.offset) :
    compareInstants r s = .lt ↔ DateTime.compareFields r.stamp s.stamp = .lt := by
  rw [DateTime.compareFields_eq_lt_iff, ← subsecond_lt_iff]
  simp only [compareInstants, compareLex, compareOn, Ordering.then_eq_lt, compare_lt_iff_lt,
    compare_eq_iff_eq, epochSecond, h]
  omega

theorem compareInstants_eq {r s : ClockReading} (h : r.offset = s.offset) :
    compareInstants r s = DateTime.compareFields r.stamp s.stamp := by
  -- the calendar decides which comes first; the other two outcomes follow by symmetry
  have hlt := compareInstants_eq_lt_iff h
  have hgt := compareInstants_eq_lt_iff h.symm
  rw [← Std.OrientedCmp.gt_iff_lt, ← Std.OrientedCmp.gt_iff_lt] at hgt
  cases h : DateTime.compareFields r.stamp s.stamp with
  | lt => exact hlt.2 h
  | gt => exact hgt.2 h
  | eq =>
    rw [h] at hlt hgt
    cases h' : compareInstants r s with
    | lt => exact (hlt.1 h').symm
    | gt => exact (hgt.1 h').symm
    | eq => rfl

/-- What stands before the zone is the local date and time, whatever the zone is. -/
theorem stamp_eq_of_read? {text text' : String} {r r' : ClockReading} {before zone zone' : List Char}
    (h : read? text = .ok r) (h' : read? text' = .ok r')
    (hcut : Text.cutAtLast? ' ' (Text.trim text.toList) = some (before, zone))
    (hcut' : Text.cutAtLast? ' ' (Text.trim text'.toList) = some (before, zone')) :
    r.stamp = r'.stamp := by
  obtain ⟨found, _, hfound, hstamp, -⟩ := read?_eq_ok_iff.1 h
  obtain ⟨found', _, hfound', hstamp', -⟩ := read?_eq_ok_iff.1 h'
  rw [hcut] at hfound
  rw [hcut'] at hfound'
  cases hfound
  cases hfound'
  rw [hstamp] at hstamp'
  exact Except.ok.inj hstamp'

/-- The second before a leap second. -/
theorem epochSecond_eq_of_leapSecond {r : ClockReading} {time : TimeOfDay}
    (h : r.stamp.time.second = 60) (hhour : time.hour = r.stamp.time.hour)
    (hminute : time.minute = r.stamp.time.minute) (hsecond : time.second = 59) :
    r.epochSecond = (ClockReading.mk ⟨r.stamp.date, time⟩ r.offset).epochSecond := by
  unfold epochSecond DateTime.epochSecond TimeOfDay.secondOfDay
  simp only [h, hhour, hminute, hsecond]
  rfl

/-- Accepted texts with equal offsets have the order of their fields, where a leap second is one
second of nanoseconds after the second before it; with equal fields they differ by their offsets. -/
theorem instants_of_texts :
    (∀ (text text' : String) (r r' : ClockReading), read? text = .ok r → read? text' = .ok r' →
      r.offset = r'.offset → compareInstants r r' = DateTime.compareFields r.stamp r'.stamp) ∧
    (∀ (text : String) (r : ClockReading), read? text = .ok r →
      (∃ before zone, Text.cutAtLast? ' ' (Text.trim text.toList) = some (before, zone) ∧
        Calendar.read stampLayout before = .ok r.stamp ∧
        ZoneOffset.read? zone = some r.offset) ∧
      (r.stamp.time.second = 60 → r.subsecond = 1000000000 ∧
        ∀ time : TimeOfDay, time.hour = r.stamp.time.hour →
          time.minute = r.stamp.time.minute → time.second = 59 →
          r.epochSecond = (ClockReading.mk ⟨r.stamp.date, time⟩ r.offset).epochSecond) ∧
      (r.stamp.time.second ≠ 60 → r.subsecond = 0)) ∧
    ∀ (text text' : String) (r r' : ClockReading) (before zone zone' : List Char),
      read? text = .ok r → read? text' = .ok r' →
      Text.cutAtLast? ' ' (Text.trim text.toList) = some (before, zone) →
      Text.cutAtLast? ' ' (Text.trim text'.toList) = some (before, zone') →
      r.epochSecond - r'.epochSecond = r'.offset.seconds - r.offset.seconds := by
  refine ⟨fun _ _ r r' _ _ h => compareInstants_eq h, fun text r h => ⟨?_, ?_, ?_⟩, ?_⟩
  · obtain ⟨before, zone, hcut, hstamp, hoffset, -⟩ := read?_eq_ok_iff.1 h
    exact ⟨before, zone, hcut, hstamp, hoffset⟩
  · intro hsecond
    exact ⟨subsecond_of_eq hsecond, fun _ => epochSecond_eq_of_leapSecond hsecond⟩
  · exact subsecond_of_ne
  · intro text text' r r' before zone zone' h h' hcut hcut'
    have hstamp : r.stamp = r'.stamp := stamp_eq_of_read? h h' hcut hcut'
    unfold epochSecond
    rw [hstamp]
    omega

/-- The leap second before the year zero, and its first moment in two zones. -/
theorem instants_of_texts_in_year_zero :
    ∃ leap east west : ClockReading,
      read? "-1-12-31 23:59:60 +0530" = .ok leap ∧
      read? "0000-01-01 00:00:00 +05:30" = .ok east ∧
      read? "0000-01-01 00:00:00 -08" = .ok west ∧
      compareInstants leap east = .lt ∧ leap.subsecond = 1000000000 ∧ east.subsecond = 0 ∧
      east.epochSecond - west.epochSecond = -28800 - 19800 := by
  let leap : ClockReading :=
    ⟨⟨⟨-1, 12, 31, by decide⟩, ⟨23, 59, 60, by decide⟩⟩, ⟨330, by decide⟩⟩
  let east : ClockReading := ⟨⟨⟨0, 1, 1, by decide⟩, ⟨0, 0, 0, by decide⟩⟩, ⟨330, by decide⟩⟩
  let west : ClockReading := ⟨⟨⟨0, 1, 1, by decide⟩, ⟨0, 0, 0, by decide⟩⟩, ⟨-480, by decide⟩⟩
  have hleap : read? "-1-12-31 23:59:60 +0530" = .ok leap := rfl
  have heast : read? "0000-01-01 00:00:00 +05:30" = .ok east := rfl
  have hwest : read? "0000-01-01 00:00:00 -08" = .ok west := rfl
  obtain ⟨horder, hsecond, hoffset⟩ := instants_of_texts
  obtain ⟨-, hnanos, -⟩ := hsecond _ leap hleap
  obtain ⟨-, -, hnone⟩ := hsecond _ east heast
  refine ⟨leap, east, west, hleap, heast, hwest, ?_, (hnanos rfl).1, hnone (by decide), ?_⟩
  · rw [horder _ _ leap east hleap heast rfl]
    rfl
  · exact hoffset _ _ east west _ _ _ heast hwest rfl rfl

end ClockReading
end SqlDialect
