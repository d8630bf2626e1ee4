import Mathlib.Data.List.Basic
import Mathlib.Data.List.TakeWhile
import Mathlib.Data.Nat.Digits.Defs
import Mathlib.Tactic.SplitIfs
import SqlDialect.Clock
import SqlDialect.Proofs.Text.Trimming

/-!
# Reading printed dates and times

Dates and times in their usual spelling, and how layouts take them off the front of a text. A
month, a day and the parts of a time always have two digits and are read as two at most, so nothing
needs to be known about the text after them. Only a year with a sign goes on as long as there are
digits.
-/

namespace SqlDialect
namespace Text

theorem length_padded {width n : Nat} (hwidth : 0 < width) (h : n < 10 ^ width) :
    (padded width n).length = width := by
  have hlength : (digits n).length ≤ width := (Nat.length_toDigits_le_iff (by decide) hwidth).2 h
  rw [padded, List.length_append, List.length_replicate]
  omega

theorem exists_cons_padded (width n : Nat) :
    ∃ c cs, padded width n = c :: cs ∧ c.isDigit = true := by
  cases h : padded width n with
  | nil => exact absurd (List.append_eq_nil_iff.1 h).2 (digits_ne_nil n)
  | cons c cs => exact ⟨c, cs, rfl, isDigit_of_mem_padded (h ▸ List.mem_cons_self)⟩

theorem trimStart_padded_append (width n : Nat) (rest : List Char) :
    trimStart (padded width n ++ rest) = padded width n ++ rest := by
  obtain ⟨c, cs, hcs, hc⟩ := exists_cons_padded width n
  rw [hcs, List.cons_append]
  exact trimStart_cons_of_not_isBlank (cs ++ rest) (isBlank_eq_false_of_isDigit hc)

/-- A text from a visible character to a number has no blanks around it. -/
theorem trim_append_padded {c : Char} {cs : List Char} (hc : isBlank c = false) (width n : Nat) :
    trim (c :: cs ++ padded width n) = c :: cs ++ padded width n := by
  have hhead : ∀ d ∈ (c :: cs ++ padded width n).head?, isBlank d = false := by
    intro d hd
    cases hd
    exact hc
  have hlast : ∀ d ∈ (c :: cs ++ padded width n).getLast?, isBlank d = false := by
    intro d hd
    obtain ⟨e, es, hes, -⟩ := exists_cons_padded width n
    rw [hes, List.getLast?_append_cons, ← hes] at hd
    exact isBlank_eq_false_of_isDigit (isDigit_of_mem_padded (List.mem_of_getLast? hd))
  exact trim_eq_self hhead hlast

theorem not_mem_padded {c : Char} (h : c.isDigit = false) (width n : Nat) :
    c ∉ padded width n := by
  intro hmem
  rw [isDigit_of_mem_padded hmem] at h
  exact absurd h (by decide)

end Text

open ClockReading (yearText)

/-! ## Spellings -/

/-- `YYYY-MM-DD`. -/
def Date.chars (d : Date) : List Char :=
  yearText d.year ++ '-' :: Text.padded 2 d.month ++ '-' :: Text.padded 2 d.day

/-- `HH:MM:SS`. -/
def TimeOfDay.chars (t : TimeOfDay) : List Char :=
  Text.padded 2 t.hour ++ ':' :: Text.padded 2 t.minute ++ ':' :: Text.padded 2 t.second

/-- `YYYY-MM-DD HH:MM:SS`. -/
def DateTime.chars (t : DateTime) : List Char :=
  t.date.chars ++ ' ' :: t.time.chars

theorem exists_cons_yearText (year : Int) :
    ∃ c cs, yearText year = c :: cs ∧ Text.isBlank c = false := by
  unfold yearText
  split_ifs
  · exact ⟨_, _, rfl, by decide⟩
  · exact ⟨_, _, rfl, by decide⟩
  · obtain ⟨c, cs, hcs, hc⟩ := Text.exists_cons_padded 4 year.natAbs
    exact ⟨c, cs, hcs, Text.isBlank_eq_false_of_isDigit hc⟩

theorem not_mem_yearText {c : Char} (h : c.isDigit = false) (hminus : c ≠ '-') (hplus : c ≠ '+')
    (year : Int) : c ∉ yearText year := by
  unfold yearText
  split_ifs
  · rw [List.mem_cons, not_or]
    exact ⟨hminus, Text.not_mem_padded h _ _⟩
  · rw [List.mem_cons, not_or]
    exact ⟨hplus, Text.not_mem_digits h _⟩
  · exact Text.not_mem_padded h _ _

theorem Date.exists_cons_chars (d : Date) :
    ∃ c cs, d.chars = c :: cs ++ Text.padded 2 d.day ∧ Text.isBlank c = false := by
  obtain ⟨c, cs, hcs, hc⟩ := exists_cons_yearText d.year
  refine ⟨c, cs ++ '-' :: Text.padded 2 d.month ++ ['-'], ?_, hc⟩
  simp only [chars, hcs, List.cons_append, List.append_assoc, List.nil_append]

theorem Date.trim_chars (d : Date) : Text.trim d.chars = d.chars := by
  obtain ⟨c, cs, hcs, hc⟩ := d.exists_cons_chars
  rw [hcs]
  exact Text.trim_append_padded hc 2 d.day

theorem DateTime.exists_cons_chars (t : DateTime) :
    ∃ c cs, t.chars = c :: cs ++ Text.padded 2 t.time.second ∧ Text.isBlank c = false := by
  obtain ⟨c, cs, hcs, hc⟩ := t.date.exists_cons_chars
  refine ⟨c, cs ++ Text.padded 2 t.date.day ++ ' ' :: Text.padded 2 t.time.hour ++
    ':' :: Text.padded 2 t.time.minute ++ [':'], ?_, hc⟩
  simp only [chars, TimeOfDay.chars, hcs, List.cons_append, List.append_assoc, List.nil_append]

theorem DateTime.trim_chars (t : DateTime) : Text.trim t.chars = t.chars := by
  obtain ⟨c, cs, hcs, hc⟩ := t.exists_cons_chars
  rw [hcs]
  exact Text.trim_append_padded hc 2 t.time.second

/-- A printed date and time has no other characters than signs, colons, blanks and digits. -/
theorem DateTime.not_mem_chars {c : Char} (h : c.isDigit = false) (hminus : c ≠ '-')
    (hplus : c ≠ '+') (hcolon : c ≠ ':') (hblank : c ≠ ' ') (t : DateTime) : c ∉ t.chars := by
  simp only [DateTime.chars, Date.chars, TimeOfDay.chars, List.mem_append, List.mem_cons, not_or]
  have hpadded (n : Nat) : c ∉ Text.padded 2 n := Text.not_mem_padded h 2 n
  have hyear := not_mem_yearText h hminus hplus t.date.year
  simp only [hpadded, hyear, hminus, hcolon, hblank, not_false_eq_true, and_self]

namespace Calendar

/-! ## Numbers -/

theorem readDigits_eq (width : Option Nat) {ds rest : List Char} (hne : ds ≠ [])
    (hds : ∀ c ∈ ds, c.isDigit = true)
    (h : ((ds ++ rest).take (width.getD (ds ++ rest).length)).takeWhile Char.isDigit = ds) :
    readDigits width (ds ++ rest) = .ok (Text.digitsValue ds, rest) := by
  obtain ⟨c, cs, rfl⟩ := List.exists_cons_of_ne_nil hne
  have hc : c.isDigit = true := hds c List.mem_cons_self
  have hdrop : (c :: (cs ++ rest)).drop (c :: cs).length = rest := List.drop_left
  rw [List.cons_append] at h ⊢
  unfold readDigits
  simp only [hc, if_true, h, hdrop]

/-- A number that has all the digits allowed to it ends there, whatever follows. -/
theorem readDigits_padded {width n : Nat} (hwidth : 0 < width) (h : n < 10 ^ width)
    (rest : List Char) :
    readDigits (some width) (Text.padded width n ++ rest) = .ok (n, rest) := by
  obtain ⟨c, cs, hcs, -⟩ := Text.exists_cons_padded width n
  have hne : Text.padded width n ≠ [] := hcs ▸ List.cons_ne_nil c cs
  have hdigit : ∀ d ∈ Text.padded width n, d.isDigit = true :=
    fun d hd => Text.isDigit_of_mem_padded hd
  have htake : ((Text.padded width n ++ rest).take width).takeWhile Char.isDigit =
      Text.padded width n := by
    rw [List.take_left' (Text.length_padded hwidth h), List.takeWhile_eq_self_iff]
    exact hdigit
  have hread := readDigits_eq (some width) hne hdigit htake
  rw [hread, Text.digitsValue_padded]

/-- A number without a limit on its digits ends where the digits do. -/
theorem readDigits_of_head {ds rest : List Char} (hne : ds ≠ [])
    (hds : ∀ c ∈ ds, c.isDigit = true) (hrest : ∀ c ∈ rest.head?, c.isDigit = false) :
    readDigits none (ds ++ rest) = .ok (Text.digitsValue ds, rest) := by
  apply readDigits_eq none hne hds
  rw [Option.getD_none, List.take_length]
  exact (Text.takeWhile_append_of_head (List.all_eq_true.2 hds) hrest).1

/-- A year that starts with a digit has no sign. -/
theorem readYear_of_digit {c : Char} {cs rest : List Char} {n : Nat} (hc : c.isDigit = true)
    (h : readDigits (some 4) (c :: cs) = .ok (n, rest)) :
    readYear (c :: cs) = .ok ((n : Int), rest) := by
  unfold readYear
  split
  · next heq =>
    rw [List.cons.injEq] at heq
    rw [heq.1, Text.isDigit_minus] at hc
    exact absurd hc (by decide)
  · next heq =>
    rw [List.cons.injEq] at heq
    rw [heq.1, Text.isDigit_plus] at hc
    exact absurd hc (by decide)
  · simp only [h, Except.map]

theorem readYear_padded {n : Nat} (h : n < 10 ^ 4) (rest : List Char) :
    readYear (Text.padded 4 n ++ rest) = .ok ((n : Int), rest) := by
  obtain ⟨c, cs, hcs, hc⟩ := Text.exists_cons_padded 4 n
  have hdigits := readDigits_padded (show 0 < 4 by decide) h rest
  rw [hcs, List.cons_append] at hdigits ⊢
  exact readYear_of_digit hc hdigits

theorem readYear_yearText (year : Int) {rest : List Char}
    (hrest : ∀ c ∈ rest.head?, c.isDigit = false) :
    readYear (yearText year ++ rest) = .ok (year, rest) := by
  obtain ⟨c, cs, hcs, -⟩ := Text.exists_cons_padded 4 year.natAbs
  unfold yearText
  split_ifs with hneg hlong
  · have hdigits := readDigits_of_head (show Text.padded 4 year.natAbs ≠ [] by simp [hcs])
      (fun c hc => Text.isDigit_of_mem_padded hc) hrest
    rw [Text.digitsValue_padded] at hdigits
    have hyear : -(year.natAbs : Int) = year := by omega
    simp only [List.cons_append, readYear, hdigits, Except.map, hyear]
  · have hdigits := readDigits_of_head (Text.digits_ne_nil year.natAbs)
      (fun c hc => Text.isDigit_of_mem_digits hc) hrest
    rw [Text.digitsValue_digits] at hdigits
    have hyear : (year.natAbs : Int) = year := by omega
    simp only [List.cons_append, readYear, hdigits, Except.map, hyear]
  · have hdigits := readYear_padded (show year.natAbs < 10 ^ 4 by omega) rest
    have hyear : (year.natAbs : Int) = year := by omega
    rw [hyear] at hdigits
    exact hdigits

/-! ## Items -/

variable {fields fields' : Fields} {items : List Item} {rest : List Char}

theorem readItems_number {field : Field} {n : Int} {cs : List Char}
    (hread : readField field cs = .ok (n, rest)) (hset : fields.set field n = .ok fields') :
    readItems fields (.number field :: items) cs = readItems fields' items rest := by
  simp only [readItems, Item.read, hread, hset, bind, Except.bind, pure, Except.pure]

theorem readItems_exactly (c : Char) :
    readItems fields (.exactly c :: items) (c :: rest) = readItems fields items rest := by
  simp only [readItems, Item.read, if_true, bind, Except.bind]

theorem readItems_blanks (cs : List Char) :
    readItems fields (.blanks :: items) cs = readItems fields items (Text.trimStart cs) := by
  simp only [readItems, Item.read, bind, Except.bind]

theorem readItems_year {year : Int} (hyear : -2147483648 ≤ year ∧ year < 2147483648)
    (hrest : ∀ c ∈ rest.head?, c.isDigit = false) :
    readItems fields (.number .year :: items) (yearText year ++ rest) =
      readItems { fields with year := year } items rest := by
  apply readItems_number
  · unfold readField
    obtain ⟨c, cs, hcs, hc⟩ := exists_cons_yearText year
    rw [hcs, List.cons_append, Text.trimStart_cons_of_not_isBlank _ hc, ← List.cons_append, ← hcs]
    exact readYear_yearText year hrest
  · exact if_pos hyear

/-- The other numbers have two digits. -/
theorem readItems_two {field : Field} {n : Nat} (hfield : field ≠ .year) (h : n < 100)
    (hset : fields.set field n = .ok fields') :
    readItems fields (.number field :: items) (Text.padded 2 n ++ rest) =
      readItems fields' items rest := by
  refine readItems_number ?_ hset
  unfold readField
  rw [Text.trimStart_padded_append, if_neg hfield, readDigits_padded (by decide) (by omega)]
  rfl

/-! ## Dates and times -/

theorem daysInMonth_le (year : Int) (month : Nat) : daysInMonth year month ≤ 31 := by
  fun_cases daysInMonth year month <;> decide

/-- A printed date is taken off the front of any text. -/
theorem readItems_date {d : Date} (hyear : -2147483648 ≤ d.year ∧ d.year < 2147483648)
    (fields : Fields) (items : List Item) (rest : List Char) :
    readItems fields (dateLayout ++ items) (d.chars ++ rest) =
      readItems { fields with year := d.year, month := d.month, day := d.day } items rest := by
  have hmonth := d.month_mem
  have hday := d.valid
  have hlast := daysInMonth_le d.year d.month
  have hsetMonth (fields : Fields) :
      fields.set .month d.month = .ok { fields with month := d.month } := if_pos (by omega)
  have hsetDay (fields : Fields) :
      fields.set .day d.day = .ok { fields with day := d.day } := if_pos (by omega)
  unfold Date.chars
  rw [List.append_assoc, List.append_assoc, List.cons_append, List.cons_append]
  show readItems fields (.number .year :: .exactly '-' :: .number .month :: .exactly '-' ::
    .number .day :: items) _ = _
  rw [readItems_year hyear (by simp), readItems_exactly]
  rw [readItems_two (by decide) (by omega) (hsetMonth _), readItems_exactly]
  rw [readItems_two (by decide) (by omega) (hsetDay _)]

/-- A printed time is taken off the front of any text. -/
theorem readItems_time (t : TimeOfDay) (fields : Fields) (items : List Item) (rest : List Char) :
    readItems fields (secondLayout ++ items) (t.chars ++ rest) =
      readItems { fields with hour := t.hour, minute := t.minute, second := t.second } items
        rest := by
  obtain ⟨hhour, hminute, hsecond⟩ := t.valid
  have hsetHour (fields : Fields) :
      fields.set .hour t.hour = .ok { fields with hour := t.hour } := if_pos (by omega)
  have hsetMinute (fields : Fields) :
      fields.set .minute t.minute = .ok { fields with minute := t.minute } := if_pos (by omega)
  have hsetSecond (fields : Fields) :
      fields.set .second t.second = .ok { fields with second := t.second } := if_pos (by omega)
  unfold TimeOfDay.chars
  rw [List.append_assoc, List.append_assoc, List.cons_append, List.cons_append]
  show readItems fields (.number .hour :: .exactly ':' :: .number .minute :: .exactly ':' ::
    .number .second :: items) _ = _
  rw [readItems_two (by decide) (by omega) (hsetHour _), readItems_exactly]
  rw [readItems_two (by decide) (by omega) (hsetMinute _), readItems_exactly]
  rw [readItems_two (by decide) (by omega) (hsetSecond _)]

theorem trimStart_space_time (t : TimeOfDay) (rest : List Char) :
    Text.trimStart (' ' :: (t.chars ++ rest)) = t.chars ++ rest := by
  have hspace : Text.trimStart (' ' :: (t.chars ++ rest)) = Text.trimStart (t.chars ++ rest) :=
    List.dropWhile_cons_of_pos (by decide)
  rw [hspace, TimeOfDay.chars, List.append_assoc, List.append_assoc, Text.trimStart_padded_append]

/-- A date and a time with a blank between them are taken off the front of any text. -/
theorem readItems_dateTime {t : DateTime}
    (hyear : -2147483648 ≤ t.date.year ∧ t.date.year < 2147483648) (fields : Fields)
    (items : List Item) (rest : List Char) :
    readItems fields (dateLayout ++ [.blanks] ++ secondLayout ++ items) (t.chars ++ rest) =
      readItems ⟨t.date.year, t.date.month, t.date.day, t.time.hour, t.time.minute, t.time.second⟩
        items rest := by
  rw [List.append_assoc, List.append_assoc, DateTime.chars, List.append_assoc, readItems_date hyear]
  show readItems _ (.blanks :: (secondLayout ++ items)) (' ' :: (t.time.chars ++ rest)) = _
  rw [readItems_blanks, trimStart_space_time, readItems_time]

/-- The fields of a date and a time make it up again, unless the year is out of range. -/
theorem read_of_readItems {layout : List Item} {cs : List Char} {t : DateTime}
    (hyear : leastYear ≤ t.date.year ∧ t.date.year ≤ greatestYear)
    (h : readItems {} layout cs =
      .ok ⟨t.date.year, t.date.month, t.date.day, t.time.hour, t.time.minute, t.time.second⟩) :
    read layout cs = .ok t := by
  have hdate : Fields.date ⟨t.date.year, t.date.month, t.date.day, t.time.hour, t.time.minute,
      t.time.second⟩ = .ok t.date := by
    unfold Fields.date
    simp only [hyear, and_self, if_true, Date.ofParts?_parts]
  have htime : Fields.time ⟨t.date.year, t.date.month, t.date.day, t.time.hour, t.time.minute,
      t.time.second⟩ = .ok t.time := by
    unfold Fields.time TimeOfDay.ofParts?
    simp only [t.time.valid, and_self, dite_true]
  unfold read
  rw [h]
  simp only [bind, Except.bind, hdate, htime, pure, Except.pure]

end Calendar
end SqlDialect
