import Mathlib.Data.List.Basic
import SqlDialect.Proofs.Calendar.DayNumber
import SqlDialect.Proofs.Calendar.Printed
import SqlDialect.Proofs.Results

/-!
# Normal form of clock readings

A clock text may be padded, signed and abbreviated in many ways, but what it comes to is a point in
time and the offset of a zone. From these the local date and time is found again and printed. Main
statement: the printed text is read as the same point in time with the same offset, and every
reading in the range of dates is printed and read this way.
-/

namespace SqlDialect

open Calendar

/-! ## Local time of a point in time -/

/-- The date and time so many seconds after the first moment of 1970; in a leap second, the last
second of the minute is the one before. -/
def DateTime.ofEpochSecond (n : Int) (leapSecond : Bool) : DateTime :=
  let second := (n % 86400).toNat
  ⟨Date.ofDayNumber (n / 86400 + Date.epochDay),
    ⟨second / 3600, second / 60 % 60, if leapSecond then 60 else second % 60, by
      split <;> omega⟩⟩

theorem TimeOfDay.secondOfDay_lt (t : TimeOfDay) : t.secondOfDay < 86400 := by
  have := t.valid
  unfold secondOfDay
  omega

theorem DateTime.ofEpochSecond_epochSecond (t : DateTime) :
    ofEpochSecond t.epochSecond t.time.isLeapSecond = t := by
  have hlt := t.time.secondOfDay_lt
  have hdays : t.epochSecond / 86400 + Date.epochDay = t.date.dayNumber := by
    unfold epochSecond
    omega
  have hsecond : (t.epochSecond % 86400).toNat = t.time.secondOfDay := by
    unfold epochSecond
    omega
  obtain ⟨date, hour, minute, second, hvalid⟩ := t
  unfold ofEpochSecond
  simp only [hdays, hsecond, Date.ofDayNumber_dayNumber, DateTime.mk.injEq, TimeOfDay.mk.injEq,
    true_and]
  simp only [TimeOfDay.secondOfDay, TimeOfDay.isLeapSecond, decide_eq_true_eq]
  refine ⟨by omega, by omega, ?_⟩
  split <;> omega

/-- What a reading comes to: a point in time, to the second, and the offset of a zone. -/
structure ClockInstant where
  /-- The seconds since the first moment of 1970 in universal time. -/
  epochSecond : Int
  /-- The leap second after this second is meant. -/
  leapSecond : Bool
  /-- The offset of the zone. -/
  offset : ZoneOffset

/-- The point in time of a reading. -/
def ClockReading.instant (reading : ClockReading) : ClockInstant :=
  ⟨reading.epochSecond, reading.stamp.time.isLeapSecond, reading.offset⟩

/-- The local date and time of a point in time. -/
def ClockInstant.reading (i : ClockInstant) : ClockReading :=
  ⟨.ofEpochSecond (i.epochSecond + i.offset.seconds) i.leapSecond, i.offset⟩

theorem ClockReading.reading_instant (reading : ClockReading) :
    reading.instant.reading = reading := by
  have hlocal : reading.epochSecond + reading.offset.seconds = reading.stamp.epochSecond := by
    unfold epochSecond
    omega
  unfold instant ClockInstant.reading
  rw [hlocal, DateTime.ofEpochSecond_epochSecond]

/-! ## Reading zones -/

namespace ZoneOffset

theorem minutesOfDigits?_padded {hours minutes : Nat} (hhours : hours < 100)
    (hminutes : minutes < 60) :
    minutesOfDigits? (Text.padded 2 hours ++ Text.padded 2 minutes) =
      some (60 * hours + minutes) := by
  obtain ⟨a, b, hab⟩ := List.length_eq_two.1
    (Text.length_padded (show 0 < 2 by decide) (show hours < 10 ^ 2 by omega))
  obtain ⟨c, d, hcd⟩ := List.length_eq_two.1
    (Text.length_padded (show 0 < 2 by decide) (show minutes < 10 ^ 2 by omega))
  have hleft : Text.digitsValue [a, b] = hours := by rw [← hab, Text.digitsValue_padded]
  have hright : Text.digitsValue [c, d] = minutes := by rw [← hcd, Text.digitsValue_padded]
  rw [hab, hcd]
  show (if Text.digitsValue [c, d] < 60 then
    some (60 * Text.digitsValue [a, b] + Text.digitsValue [c, d]) else none) = _
  rw [hleft, hright, if_pos hminutes]

/-- The hours and minutes of an offset are read back, with either sign. -/
theorem ofSigned?_padded (offset : ZoneOffset) {negative : Bool}
    (h : (if negative then -(offset.minutes.natAbs : Int) else offset.minutes.natAbs) =
      offset.minutes) :
    ofSigned? negative (Text.padded 2 (offset.minutes.natAbs / 60) ++
      Text.padded 2 (offset.minutes.natAbs % 60)) = some offset := by
  have hday := offset.inDay
  have hdigit : ∀ c ∈ Text.padded 2 (offset.minutes.natAbs / 60) ++
      Text.padded 2 (offset.minutes.natAbs % 60), c.isDigit = true := by
    intro c hc
    rcases List.mem_append.1 hc with hc | hc
    · exact Text.isDigit_of_mem_padded hc
    · exact Text.isDigit_of_mem_padded hc
  have hcolons : (Text.padded 2 (offset.minutes.natAbs / 60) ++
      Text.padded 2 (offset.minutes.natAbs % 60)).filter (· ≠ ':') =
      Text.padded 2 (offset.minutes.natAbs / 60) ++
        Text.padded 2 (offset.minutes.natAbs % 60) := by
    rw [List.filter_eq_self]
    intro c hc
    have hne : c ≠ ':' := by
      rintro rfl
      exact absurd (hdigit ':' hc) (by decide)
    exact decide_eq_true hne
  have hminutes := minutesOfDigits?_padded (show offset.minutes.natAbs / 60 < 100 by omega)
    (show offset.minutes.natAbs % 60 < 60 by omega)
  have hsum : 60 * (offset.minutes.natAbs / 60) + offset.minutes.natAbs % 60 =
      offset.minutes.natAbs := by omega
  unfold ofSigned?
  simp only [hcolons, List.all_eq_true.2 hdigit, if_true, hminutes, hsum, h]
  exact dif_pos hday

theorem read?_offsetText (offset : ZoneOffset) :
    read? (ClockReading.offsetText offset) = some offset := by
  unfold ClockReading.offsetText read?
  split_ifs with hneg hword hword
  · simp at hword
  · exact offset.ofSigned?_padded (by simp only [if_true]; omega)
  · simp at hword
  · exact offset.ofSigned?_padded (by simp only [Bool.false_eq_true, if_false]; omega)

end ZoneOffset

/-! ## Range of readings -/

theorem Calendar.Fields.year_of_date {fields : Fields} {d : Date} (h : fields.date = .ok d) :
    leastYear ≤ d.year ∧ d.year ≤ greatestYear := by
  unfold Fields.date at h
  split at h
  · next hyear =>
    cases hparts : Date.ofParts? fields.year fields.month fields.day with
    | none =>
      rw [hparts] at h
      cases h
    | some found =>
      rw [hparts] at h
      cases h
      rw [(Date.ofParts?_eq_some_iff.1 hparts).1]
      exact hyear
  · cases h

theorem Calendar.year_of_read {layout : List Item} {cs : List Char} {t : DateTime}
    (h : Calendar.read layout cs = .ok t) :
    leastYear ≤ t.date.year ∧ t.date.year ≤ greatestYear := by
  unfold Calendar.read at h
  obtain ⟨fields, -, h⟩ := bind_eq_ok_iff.1 h
  obtain ⟨date, hdate, h⟩ := bind_eq_ok_iff.1 h
  obtain ⟨time, -, h⟩ := bind_eq_ok_iff.1 h
  cases h
  exact Fields.year_of_date hdate

namespace ClockReading

/-- Whether the local year can be written and the point in time is one of the calendar. -/
structure InRange (reading : ClockReading) : Prop where
  year : leastYear ≤ reading.stamp.date.year ∧ reading.stamp.date.year ≤ greatestYear
  epochSecond : leastSecond ≤ reading.epochSecond ∧ reading.epochSecond ≤ greatestSecond

/-- A text is read in three parts, and the point in time must be one of the calendar. -/
theorem read?_eq_ok_iff {text : String} {reading : ClockReading} :
    read? text = .ok reading ↔ ∃ before zone,
      Text.cutAtLast? ' ' (Text.trim text.toList) = some (before, zone) ∧
        Calendar.read stampLayout before = .ok reading.stamp ∧
        ZoneOffset.read? zone = some reading.offset ∧
        leastSecond ≤ reading.epochSecond ∧ reading.epochSecond ≤ greatestSecond := by
  unfold read?
  simp only
  constructor
  · intro h
    split at h
    · cases h
    · next before zone hcut =>
      split at h
      · cases h
      · next stamp hstamp =>
        split at h
        · cases h
        · next offset hoffset =>
          split at h
          · next hrange =>
            cases h
            exact ⟨before, zone, hcut, hstamp, hoffset, hrange⟩
          · cases h
  · rintro ⟨before, zone, hcut, hstamp, hoffset, hrange⟩
    simp only [hcut, hstamp, hoffset]
    exact if_pos hrange

theorem inRange_of_read? {text : String} {reading : ClockReading}
    (h : read? text = .ok reading) : reading.InRange := by
  obtain ⟨before, zone, -, hstamp, -, hrange⟩ := read?_eq_ok_iff.1 h
  exact ⟨year_of_read hstamp, hrange⟩

/-! ## Reading the normal form -/

theorem chars_eq (reading : ClockReading) :
    reading.chars = reading.stamp.chars ++ ' ' :: offsetText reading.offset := by
  simp only [chars, DateTime.chars, Date.chars, TimeOfDay.chars, List.append_assoc,
    List.cons_append]

theorem trim_chars (reading : ClockReading) : Text.trim reading.chars = reading.chars := by
  obtain ⟨c, cs, hcs, hc⟩ := reading.stamp.exists_cons_chars
  obtain ⟨body, hbody⟩ : ∃ body, reading.chars =
      c :: body ++ Text.padded 2 (reading.offset.minutes.natAbs % 60) := by
    refine ⟨cs ++ Text.padded 2 reading.stamp.time.second ++ ' ' ::
      (if reading.offset.minutes < 0 then '-' else '+') ::
        Text.padded 2 (reading.offset.minutes.natAbs / 60), ?_⟩
    simp only [chars_eq, hcs, offsetText, List.append_assoc, List.cons_append]
  rw [hbody]
  exact Text.trim_append_padded hc 2 _

theorem cutAtLast?_chars (reading : ClockReading) :
    Text.cutAtLast? ' ' reading.chars = some (reading.stamp.chars, offsetText reading.offset) := by
  rw [chars_eq, Text.cutAtLast?_eq_some_iff]
  refine ⟨rfl, ?_⟩
  unfold offsetText
  rw [List.mem_cons, List.mem_append, not_or, not_or]
  refine ⟨?_, Text.not_mem_padded (by decide) _ _, Text.not_mem_padded (by decide) _ _⟩
  split <;> decide

theorem read_stampLayout {reading : ClockReading} (h : reading.InRange) :
    Calendar.read stampLayout reading.stamp.chars = .ok reading.stamp := by
  obtain ⟨hlow, hhigh⟩ := h.year
  apply read_of_readItems h.year
  unfold leastYear at hlow
  unfold greatestYear at hhigh
  have hitems := readItems_dateTime
    (show -2147483648 ≤ reading.stamp.date.year ∧ reading.stamp.date.year < 2147483648 by omega)
    {} [] []
  rw [List.append_nil, List.append_nil] at hitems
  exact hitems

theorem read?_text {reading : ClockReading} (h : reading.InRange) :
    read? reading.text = .ok reading := by
  have hcut : Text.cutAtLast? ' ' (Text.trim reading.text.toList) =
      some (reading.stamp.chars, offsetText reading.offset) := by
    rw [text, String.toList_ofList, trim_chars, cutAtLast?_chars]
  exact read?_eq_ok_iff.2 ⟨_, _, hcut, read_stampLayout h, ZoneOffset.read?_offsetText _,
    h.epochSecond⟩

/-- What a text comes to is found again in the normal form of its local time; and every local date
and time in the range of years, with every offset, has a normal form that is read as itself when its
point in time is one of the calendar. -/
theorem read_normal_form :
    (∀ (text : String) (reading : ClockReading), read? text = .ok reading →
      read? reading.instant.reading.text = .ok reading) ∧
    ∀ (stamp : DateTime) (offset : ZoneOffset),
      leastYear ≤ stamp.date.year → stamp.date.year ≤ greatestYear →
      leastSecond ≤ (ClockReading.mk stamp offset).epochSecond →
      (ClockReading.mk stamp offset).epochSecond ≤ greatestSecond →
      read? (ClockReading.mk stamp offset).text = .ok ⟨stamp, offset⟩ := by
  constructor
  · intro text reading h
    rw [reading.reading_instant]
    exact read?_text (inRange_of_read? h)
  · intro stamp offset hleast hgreatest hlow hhigh
    exact read?_text ⟨⟨hleast, hgreatest⟩, ⟨hlow, hhigh⟩⟩

/-- A text with blanks and a leap second, and the last local date and time at the largest offset. -/
theorem read_normal_form_of_leap_second :
    ∃ reading last : ClockReading,
      read? " 2024-1-5   7:08:60 -05:30" = .ok reading ∧
      reading.text = "2024-01-05 07:08:60 -0530" ∧
      read? reading.instant.reading.text = .ok reading ∧
      last.text = "+262142-12-31 23:59:59 +2359" ∧ read? last.text = .ok last := by
  let reading : ClockReading :=
    ⟨⟨⟨2024, 1, 5, by decide⟩, ⟨7, 8, 60, by decide⟩⟩, ⟨-330, by decide⟩⟩
  let last : ClockReading :=
    ⟨⟨⟨262142, 12, 31, by decide⟩, ⟨23, 59, 59, by decide⟩⟩, ⟨1439, by decide⟩⟩
  have hread : read? " 2024-1-5   7:08:60 -05:30" = .ok reading := rfl
  obtain ⟨hnormal, hall⟩ := read_normal_form
  refine ⟨reading, last, hread, by decide +kernel, hnormal _ _ hread, by decide +kernel, ?_⟩
  exact hall last.stamp last.offset (by decide) (by decide) (by decide) (by decide)

end ClockReading
end SqlDialect
