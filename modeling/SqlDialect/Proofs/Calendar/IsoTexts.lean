import SqlDialect.Proofs.Calendar.Fitting

/-!
# ISO spellings of dates and times

Dates and times with four digits for the year and two for every other number. The numbers may be
those of no date and of no time: whether a spelling fits a layout then says whether they are.
-/

namespace SqlDialect
namespace Calendar

/-- The numbers of a spelling. Each has its usual width, but nothing says that there is such a date
or such a time. -/
structure IsoNumbers where
  number : Field → Nat
  width : ∀ field, number field < 10 ^ field.width

namespace IsoNumbers

def chars (n : IsoNumbers) (field : Field) : List Char :=
  Text.padded field.width (n.number field)

/-- `YYYY-MM-DD`. -/
def dateChars (n : IsoNumbers) : List Char :=
  n.chars .year ++ '-' :: (n.chars .month ++ '-' :: n.chars .day)

/-- `HH:MM`. -/
def minuteChars (n : IsoNumbers) : List Char :=
  n.chars .hour ++ ':' :: n.chars .minute

/-- `HH:MM:SS`. -/
def secondChars (n : IsoNumbers) : List Char :=
  n.minuteChars ++ ':' :: n.chars .second

/-- Whether there is such a date. -/
def DateExists (n : IsoNumbers) : Prop :=
  1 ≤ n.number .month ∧ n.number .month ≤ 12 ∧
    1 ≤ n.number .day ∧ n.number .day ≤ daysInMonth (n.number .year) (n.number .month)

/-- Whether there is such a minute of a day. -/
def MinuteExists (n : IsoNumbers) : Prop :=
  n.number .hour ≤ 23 ∧ n.number .minute ≤ 59

/-- Whether there is such a second of a day; every minute may end with a leap second. -/
def SecondExists (n : IsoNumbers) : Prop :=
  n.MinuteExists ∧ n.number .second ≤ 60

instance (n : IsoNumbers) : Decidable n.DateExists :=
  inferInstanceAs (Decidable (1 ≤ n.number .month ∧ n.number .month ≤ 12 ∧
    1 ≤ n.number .day ∧ n.number .day ≤ daysInMonth (n.number .year) (n.number .month)))

instance (n : IsoNumbers) : Decidable n.MinuteExists :=
  inferInstanceAs (Decidable (n.number .hour ≤ 23 ∧ n.number .minute ≤ 59))

instance (n : IsoNumbers) : Decidable n.SecondExists :=
  inferInstanceAs (Decidable (n.MinuteExists ∧ n.number .second ≤ 60))

/-- What may follow a second: nothing, or a point and the digits of a fraction. -/
inductive SecondTail : List Char → Prop where
  | none : SecondTail []
  | fraction {digits : List Char} (hne : digits ≠ [])
      (hdigits : ∀ c ∈ digits, c.isDigit = true) : SecondTail ('.' :: digits)

theorem SecondTail.fits_iff {fields : Fields} {tail : List Char} (h : SecondTail tail) :
    Fits fields [.fraction] tail ↔ fields.Exist := by
  cases h with
  | none => exact fits_fraction_nil_iff
  | fraction hne hdigits => exact fits_fraction_iff hne hdigits

theorem SecondTail.of_mem {tail : List Char} (h : SecondTail tail) {c : Char} (hc : c ∈ tail) :
    c.isDigit = true ∨ c = '.' := by
  cases h with
  | none => cases hc
  | fraction hne hdigits =>
    rcases List.mem_cons.1 hc with rfl | hc
    · exact .inr rfl
    · exact .inl (hdigits c hc)

theorem SecondTail.isTight_append {cs tail : List Char} (h : SecondTail tail)
    (hcs : Text.IsTight cs) : Text.IsTight (cs ++ tail) := by
  cases h with
  | none =>
    rw [List.append_nil]
    exact hcs
  | fraction hne hdigits => exact hcs.append_cons (Text.isTight_of_isDigit hne hdigits)

variable {n : IsoNumbers} {fields : Fields} {items : List Item} {rest : List Char}

theorem isDigit_of_mem_chars {field : Field} {c : Char} (h : c ∈ n.chars field) :
    c.isDigit = true :=
  Text.isDigit_of_mem_padded h

theorem length_chars (n : IsoNumbers) (field : Field) : (n.chars field).length = field.width :=
  Text.length_padded field.width_pos (n.width field)

theorem isTight_chars (n : IsoNumbers) (field : Field) : Text.IsTight (n.chars field) := by
  refine Text.isTight_of_isDigit ?_ fun c hc => isDigit_of_mem_chars hc
  exact List.ne_nil_of_length_pos (n.length_chars field ▸ field.width_pos)

theorem isTight_dateChars (n : IsoNumbers) : Text.IsTight n.dateChars :=
  (n.isTight_chars .year).append_cons ((n.isTight_chars .month).append_cons (n.isTight_chars .day))

theorem isTight_minuteChars (n : IsoNumbers) : Text.IsTight n.minuteChars :=
  (n.isTight_chars .hour).append_cons (n.isTight_chars .minute)

theorem isTight_secondChars (n : IsoNumbers) : Text.IsTight n.secondChars :=
  n.isTight_minuteChars.append_cons (n.isTight_chars .second)

theorem length_dateChars (n : IsoNumbers) : n.dateChars.length = 10 := by
  simp [dateChars, length_chars, Field.width]

theorem length_minuteChars (n : IsoNumbers) : n.minuteChars.length = 5 := by
  simp [minuteChars, length_chars, Field.width]

theorem length_secondChars (n : IsoNumbers) : n.secondChars.length = 8 := by
  simp [secondChars, length_minuteChars, length_chars, Field.width]

/-! ## Layouts -/

/-- Whether the layouts take a number; there may be no such day in the month even so. -/
def Admitted (n : IsoNumbers) (field : Field) : Prop :=
  field.Admits (n.number field)

theorem fits_chars_iff (field : Field) :
    Fits fields (.number field :: items) (n.chars field ++ rest) ↔
      n.Admitted field ∧ Fits (fields.put field (n.number field)) items rest :=
  fits_padded_iff (n.width field)

/-- The fields with the numbers of a date. -/
def putDate (n : IsoNumbers) (fields : Fields) : Fields :=
  ((fields.put .year (n.number .year)).put .month (n.number .month)).put .day (n.number .day)

/-- The fields with the numbers of a minute. -/
def putMinute (n : IsoNumbers) (fields : Fields) : Fields :=
  (fields.put .hour (n.number .hour)).put .minute (n.number .minute)

/-- The fields with the numbers of a second. -/
def putSecond (n : IsoNumbers) (fields : Fields) : Fields :=
  (n.putMinute fields).put .second (n.number .second)

theorem fits_dateLayout_iff :
    Fits fields (dateLayout ++ items) (n.dateChars ++ rest) ↔
      (n.Admitted .year ∧ n.Admitted .month ∧ n.Admitted .day) ∧
        Fits (n.putDate fields) items rest := by
  unfold dateChars
  rw [List.append_assoc, List.cons_append, List.append_assoc, List.cons_append]
  show Fits fields (.number .year :: .exactly '-' :: .number .month :: .exactly '-' ::
    .number .day :: items) _ ↔ _
  rw [fits_chars_iff, fits_exactly_cons_iff, fits_chars_iff, fits_exactly_cons_iff, fits_chars_iff]
  simp only [and_assoc]
  rfl

theorem fits_minuteLayout_iff :
    Fits fields (minuteLayout ++ items) (n.minuteChars ++ rest) ↔
      (n.Admitted .hour ∧ n.Admitted .minute) ∧ Fits (n.putMinute fields) items rest := by
  unfold minuteChars
  rw [List.append_assoc, List.cons_append]
  show Fits fields (.number .hour :: .exactly ':' :: .number .minute :: items) _ ↔ _
  rw [fits_chars_iff, fits_exactly_cons_iff, fits_chars_iff]
  simp only [and_assoc]
  rfl

theorem fits_secondLayout_iff :
    Fits fields (secondLayout ++ items) (n.secondChars ++ rest) ↔
      ((n.Admitted .hour ∧ n.Admitted .minute) ∧ n.Admitted .second) ∧
        Fits (n.putSecond fields) items rest := by
  unfold secondChars
  rw [List.append_assoc, List.cons_append]
  show Fits fields (minuteLayout ++ (.exactly ':' :: .number .second :: items)) _ ↔ _
  rw [fits_minuteLayout_iff, fits_exactly_cons_iff, fits_chars_iff, ← and_assoc]
  rfl

/-- Whether a text fits one of the layouts of a time that follows a date. -/
def FitsTime (fields : Fields) (cs : List Char) : Prop :=
  Fits fields (secondLayout ++ [.fraction]) cs ∨ Fits fields minuteLayout cs

theorem fitsTime_minuteChars_iff :
    FitsTime fields n.minuteChars ↔
      (n.Admitted .hour ∧ n.Admitted .minute) ∧ (n.putMinute fields).Exist := by
  have hminute := @fits_minuteLayout_iff n fields [] []
  have hsecond := @fits_minuteLayout_iff n fields
    (.exactly ':' :: .number .second :: [.fraction]) []
  rw [List.append_nil, List.append_nil, fits_nil_iff] at hminute
  rw [List.append_nil, fits_exactly_iff] at hsecond
  unfold FitsTime
  rw [hminute, show secondLayout ++ [.fraction] =
    minuteLayout ++ (.exactly ':' :: .number .second :: [.fraction]) from rfl, hsecond]
  simp

theorem fitsTime_secondChars_iff {tail : List Char} (htail : SecondTail tail) :
    FitsTime fields (n.secondChars ++ tail) ↔
      ((n.Admitted .hour ∧ n.Admitted .minute) ∧ n.Admitted .second) ∧
        (n.putSecond fields).Exist := by
  -- the layout without seconds does not reach the end of the text
  have hminute := @fits_minuteLayout_iff n fields [] (':' :: (n.chars .second ++ tail))
  rw [List.append_nil, fits_nil_iff] at hminute
  unfold FitsTime
  rw [fits_secondLayout_iff, htail.fits_iff, secondChars, List.append_assoc, List.cons_append,
    hminute]
  simp

/-- Only one of the two ways to join a date and a time fits a separator. -/
theorem fits_separated_iff {separator : Char} (h : separator = 'T' ∨ separator = ' ')
    {cs : List Char} (hcs : ∀ c ∈ cs.head?, Text.isBlank c = false) :
    Fits fields (.exactly 'T' :: .number .hour :: items) (separator :: cs) ∨
      Fits fields (.blanks :: .number .hour :: items) (separator :: cs) ↔
    Fits fields (.number .hour :: items) cs := by
  rcases h with rfl | rfl
  · have hletter : ¬ Fits fields (.number .hour :: items) ('T' :: cs) := by
      apply not_fits_of_head (by decide)
      rw [Text.trimStart_cons_of_not_isBlank cs (by decide)]
      simp
    rw [fits_exactly_cons_iff, fits_blanks_iff,
      Text.trimStart_cons_of_not_isBlank cs (by decide)]
    simp only [hletter, or_false]
  · have htrim : Text.trimStart (' ' :: cs) = cs :=
      @Text.trimStart_append [' '] cs (by decide) hcs
    rw [fits_exactly_iff, fits_blanks_iff, htrim]
    simp

theorem colon_ne_of_isDigit {c : Char} (h : c.isDigit = true) : c ≠ ':' := by
  rintro rfl
  exact absurd h (by decide)

/-- A text that starts with four digits fits no layout that starts with an hour. -/
theorem not_fits_secondLayout_year :
    ¬ Fits fields (secondLayout ++ items) (n.chars .year ++ rest) := by
  obtain ⟨a, b, c, d, hyear⟩ := List.length_eq_four.1 (n.length_chars .year)
  have hdigit : ∀ e ∈ [a, b, c, d], e.isDigit = true := by
    rw [← hyear]
    exact fun e he => isDigit_of_mem_chars he
  rw [hyear]
  exact not_fits_two_of_digit (by decide) (hdigit a (by simp)) (hdigit b (by simp))
    (colon_ne_of_isDigit (hdigit c (by simp)))

/-- A text that starts with two digits and a colon fits no layout that starts with a date. -/
theorem not_fits_dateLayout_hour :
    ¬ Fits fields (dateLayout ++ items) (n.chars .hour ++ ':' :: rest) := by
  obtain ⟨a, b, hhour⟩ := List.length_eq_two.1 (n.length_chars .hour)
  have hdigit : ∀ e ∈ [a, b], e.isDigit = true := by
    rw [← hhour]
    exact fun e he => isDigit_of_mem_chars he
  rw [hhour]
  exact not_fits_year_of_head (hdigit a (by simp)) (hdigit b (by simp)) (by decide) (by decide)

/-! ## Numbers in range -/

theorem admitted_date_iff :
    (n.Admitted .year ∧ n.Admitted .month ∧ n.Admitted .day) ∧ (n.putDate fields).HasDate ↔
      n.DateExists := by
  have hyear : n.number .year < 10000 := n.width .year
  have hlast := daysInMonth_le (n.number .year) (n.number .month)
  simp only [Admitted, Field.Admits, Fields.HasDate, putDate, Fields.put, DateExists, leastYear,
    greatestYear, Int.toNat_natCast]
  omega

theorem admitted_minute_iff (hsecond : fields.second ≤ 60) :
    (n.Admitted .hour ∧ n.Admitted .minute) ∧ (n.putMinute fields).HasTime ↔
      n.MinuteExists := by
  simp only [Admitted, Field.Admits, Fields.HasTime, putMinute, Fields.put, MinuteExists,
    Int.toNat_natCast]
  omega

theorem admitted_second_iff :
    ((n.Admitted .hour ∧ n.Admitted .minute) ∧ n.Admitted .second) ∧
      (n.putSecond fields).HasTime ↔ n.SecondExists := by
  simp only [Admitted, Field.Admits, Fields.HasTime, putSecond, putMinute, Fields.put,
    SecondExists, MinuteExists, Int.toNat_natCast]
  omega

/-! A date leaves the time alone, and a time the date. -/

theorem hasTime_putDate : (n.putDate fields).HasTime ↔ fields.HasTime := Iff.rfl

theorem hasDate_putMinute : (n.putMinute fields).HasDate ↔ fields.HasDate := Iff.rfl

theorem hasDate_putSecond : (n.putSecond fields).HasDate ↔ fields.HasDate := Iff.rfl

theorem exist_date_iff :
    (n.Admitted .year ∧ n.Admitted .month ∧ n.Admitted .day) ∧ (n.putDate {}).Exist ↔
      n.DateExists := by
  have htime : (n.putDate {}).HasTime := hasTime_putDate.2 ⟨by decide, by decide, by decide⟩
  rw [Fields.Exist, and_iff_left htime]
  exact admitted_date_iff

theorem exist_dateMinute_iff :
    (n.Admitted .year ∧ n.Admitted .month ∧ n.Admitted .day) ∧
      (n.Admitted .hour ∧ n.Admitted .minute) ∧ (n.putMinute (n.putDate {})).Exist ↔
    n.DateExists ∧ n.MinuteExists := by
  rw [Fields.Exist, hasDate_putMinute, ← and_assoc, and_and_and_comm]
  exact and_congr admitted_date_iff (admitted_minute_iff (Nat.zero_le 60))

theorem exist_dateSecond_iff :
    (n.Admitted .year ∧ n.Admitted .month ∧ n.Admitted .day) ∧
      ((n.Admitted .hour ∧ n.Admitted .minute) ∧ n.Admitted .second) ∧
        (n.putSecond (n.putDate {})).Exist ↔
    n.DateExists ∧ n.SecondExists := by
  rw [Fields.Exist, hasDate_putSecond, ← and_assoc, and_and_and_comm]
  exact and_congr admitted_date_iff admitted_second_iff

theorem exist_second_iff :
    ((n.Admitted .hour ∧ n.Admitted .minute) ∧ n.Admitted .second) ∧ (n.putSecond {}).Exist ↔
      n.SecondExists := by
  have hdate : (n.putSecond {}).HasDate := hasDate_putSecond.2 ⟨by decide, by decide⟩
  rw [Fields.Exist, and_iff_right hdate]
  exact admitted_second_iff

end IsoNumbers
end Calendar
end SqlDialect
