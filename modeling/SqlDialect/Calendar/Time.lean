import SqlDialect.Calendar.Date

/-!
# Times of day

A time of day counts whole seconds. The second may be 60, for a leap second at the end of any
minute.
-/

namespace SqlDialect

/-- A time of day, to the second. -/
structure TimeOfDay where
  /-- The hour, from zero. -/
  hour : Nat
  /-- The minute, from zero. -/
  minute : Nat
  /-- The second, from zero; 60 in a leap second. -/
  second : Nat
  /-- The parts are in range. -/
  valid : hour < 24 ∧ minute < 60 ∧ second ≤ 60
deriving DecidableEq

namespace TimeOfDay

/-- The time with these parts, if there is one. -/
def ofParts? (hour minute second : Nat) : Option TimeOfDay :=
  if h : hour < 24 ∧ minute < 60 ∧ second ≤ 60 then some ⟨hour, minute, second, h⟩ else none

/-- Whether the time is in a leap second. -/
def isLeapSecond (t : TimeOfDay) : Bool :=
  t.second = 60

/-- The seconds since midnight; a leap second counts as the second before it. -/
def secondOfDay (t : TimeOfDay) : Nat :=
  3600 * t.hour + 60 * t.minute + min t.second 59

end TimeOfDay

/-- A date and a time of day, in no particular zone. -/
structure DateTime where
  /-- The day. -/
  date : Date
  /-- The time on that day. -/
  time : TimeOfDay
deriving DecidableEq

/-- The seconds since the first moment of 1970, as if the zone had no offset. -/
def DateTime.epochSecond (t : DateTime) : Int :=
  86400 * (t.date.dayNumber - Date.epochDay) + t.time.secondOfDay

end SqlDialect
