import SqlDialect.Proofs.Calendar.Printed
import SqlDialect.Proofs.Results

/-!
# Texts that fit a layout

Whether a text fits is told item by item: each kind of item has one lemma that says what a text has
to start with and what is asked of the rest. Numbers with all their digits are taken off the front
of any text, whether they are in range or not, so these lemmas refuse a text as well as accept it.
-/

namespace SqlDialect
namespace Calendar

/-- The numbers that a field can hold. -/
def Field.Admits : Field → Int → Prop
  | .year, n => -2147483648 ≤ n ∧ n < 2147483648
  | .month, n => 1 ≤ n ∧ n ≤ 12
  | .day, n => 1 ≤ n ∧ n ≤ 31
  | .hour, n => 0 ≤ n ∧ n ≤ 23
  | .minute, n => 0 ≤ n ∧ n ≤ 59
  | .second, n => 0 ≤ n ∧ n ≤ 60

def Fields.put (fields : Fields) : Field → Int → Fields
  | .year, n => { fields with year := n }
  | .month, n => { fields with month := n.toNat }
  | .day, n => { fields with day := n.toNat }
  | .hour, n => { fields with hour := n.toNat }
  | .minute, n => { fields with minute := n.toNat }
  | .second, n => { fields with second := n.toNat }

theorem Fields.set_of_admits {field : Field} {n : Int} (h : field.Admits n) (fields : Fields) :
    fields.set field n = .ok (fields.put field n) := by
  cases field <;> exact if_pos h

theorem Fields.set_of_not_admits {field : Field} {n : Int} (h : ¬ field.Admits n)
    (fields : Fields) : fields.set field n = .error .outOfRange := by
  cases field <;> exact if_neg h

/-- Whether the fields are those of a date that can be read. -/
def Fields.HasDate (fields : Fields) : Prop :=
  (leastYear ≤ fields.year ∧ fields.year ≤ greatestYear) ∧
    1 ≤ fields.day ∧ fields.day ≤ daysInMonth fields.year fields.month

/-- Whether the fields are those of a time. -/
def Fields.HasTime (fields : Fields) : Prop :=
  fields.hour < 24 ∧ fields.minute < 60 ∧ fields.second ≤ 60

def Fields.Exist (fields : Fields) : Prop :=
  fields.HasDate ∧ fields.HasTime

theorem Fields.exists_date_iff {fields : Fields} :
    (∃ d, fields.date = .ok d) ↔ fields.HasDate := by
  unfold Fields.date Date.ofParts? Fields.HasDate
  split_ifs with hyear hday
  · simp [hyear, hday]
  · simp [hday]
  · simp [hyear]

theorem Fields.exists_time_iff {fields : Fields} :
    (∃ t, fields.time = .ok t) ↔ fields.HasTime := by
  unfold Fields.time TimeOfDay.ofParts? Fields.HasTime
  split_ifs with h
  · simp [h]
  · simp [h]

theorem Fields.exist_iff {fields : Fields} :
    fields.Exist ↔ (∃ d, fields.date = .ok d) ∧ ∃ t, fields.time = .ok t := by
  rw [Fields.exists_date_iff, Fields.exists_time_iff, Fields.Exist]

/-- Whether a text fits the items, after some fields have been read. -/
def Fits (fields : Fields) (items : List Item) (cs : List Char) : Prop :=
  ∃ fields', readItems fields items cs = .ok fields' ∧ fields'.Exist

theorem exists_read_iff {layout : List Item} {cs : List Char} :
    (∃ t, read layout cs = .ok t) ↔ Fits {} layout cs := by
  unfold Calendar.read Fits
  constructor
  · rintro ⟨t, h⟩
    obtain ⟨fields, hfields, h⟩ := bind_eq_ok_iff.1 h
    obtain ⟨date, hdate, h⟩ := bind_eq_ok_iff.1 h
    obtain ⟨time, htime, -⟩ := bind_eq_ok_iff.1 h
    exact ⟨fields, hfields, Fields.exist_iff.2 ⟨⟨date, hdate⟩, ⟨time, htime⟩⟩⟩
  · rintro ⟨fields, hfields, hexist⟩
    obtain ⟨⟨date, hdate⟩, ⟨time, htime⟩⟩ := Fields.exist_iff.1 hexist
    refine ⟨⟨date, time⟩, bind_eq_ok_iff.2 ⟨fields, hfields, ?_⟩⟩
    exact bind_eq_ok_iff.2 ⟨date, hdate, bind_eq_ok_iff.2 ⟨time, htime, rfl⟩⟩

variable {fields : Fields} {items : List Item} {cs rest : List Char}

theorem fits_nil_iff : Fits fields [] cs ↔ cs = [] ∧ fields.Exist := by
  cases cs with
  | nil => simp [Fits, readItems]
  | cons c cs => simp [Fits, readItems]

theorem fits_exactly_cons_iff {c : Char} :
    Fits fields (.exactly c :: items) (c :: rest) ↔ Fits fields items rest := by
  unfold Fits
  rw [readItems_exactly]

theorem fits_exactly_iff {c : Char} :
    Fits fields (.exactly c :: items) cs ↔ ∃ rest, cs = c :: rest ∧ Fits fields items rest := by
  cases cs with
  | nil => simp [Fits, readItems, Item.read, bind, Except.bind]
  | cons d ds =>
    by_cases hd : d = c
    · subst hd
      simp [fits_exactly_cons_iff]
    · simp [Fits, readItems, Item.read, bind, Except.bind, hd]

theorem fits_blanks_iff :
    Fits fields (.blanks :: items) cs ↔ Fits fields items (Text.trimStart cs) := by
  unfold Fits
  rw [readItems_blanks]

theorem fits_number_iff {field : Field} {n : Int} (hread : readField field cs = .ok (n, rest)) :
    Fits fields (.number field :: items) cs ↔
      field.Admits n ∧ Fits (fields.put field n) items rest := by
  unfold Fits
  by_cases h : field.Admits n
  · rw [readItems_number hread (Fields.set_of_admits h fields)]
    simp only [h, true_and]
  · simp [readItems, Item.read, hread, Fields.set_of_not_admits h, h, bind, Except.bind]

theorem not_fits_number {field : Field} {e : ReadError} (hread : readField field cs = .error e) :
    ¬ Fits fields (.number field :: items) cs := by
  simp [Fits, readItems, Item.read, hread, bind, Except.bind]

/-! ## Numbers -/

def Field.width : Field → Nat
  | .year => 4
  | _ => 2

theorem Field.width_of_ne {field : Field} (h : field ≠ .year) : field.width = 2 := by
  cases field with
  | year => exact absurd rfl h
  | _ => rfl

theorem Field.width_pos (field : Field) : 0 < field.width := by
  cases field <;> decide

theorem readField_of_ne {field : Field} (h : field ≠ .year) (cs : List Char) :
    readField field cs =
      (readDigits (some 2) (Text.trimStart cs)).map fun (n, rest) => ((n : Int), rest) :=
  if_neg h

/-- A number with all its digits is taken off the front of any text. -/
theorem fits_padded_iff {field : Field} {n : Nat} (h : n < 10 ^ field.width) :
    Fits fields (.number field :: items) (Text.padded field.width n ++ rest) ↔
      field.Admits n ∧ Fits (fields.put field n) items rest := by
  apply fits_number_iff
  by_cases hyear : field = .year
  · subst hyear
    unfold readField
    rw [Text.trimStart_padded_append]
    exact readYear_padded h rest
  · rw [Field.width_of_ne hyear] at h ⊢
    rw [readField_of_ne hyear, Text.trimStart_padded_append, readDigits_padded (by decide) h]
    rfl

/-- A number does not start with a letter or with nothing. -/
theorem not_fits_of_head {field : Field} (hfield : field ≠ .year)
    (hcs : ∀ c ∈ (Text.trimStart cs).head?, c.isDigit = false) :
    ¬ Fits fields (.number field :: items) cs := by
  have hread : ∃ e, readDigits (some 2) (Text.trimStart cs) = .error e := by
    cases htrim : Text.trimStart cs with
    | nil => exact ⟨_, rfl⟩
    | cons c rest =>
      have hc : c.isDigit = false := hcs c (by rw [htrim]; rfl)
      exact ⟨.invalidCharacter, by simp [readDigits, hc]⟩
  obtain ⟨e, he⟩ := hread
  apply not_fits_number
  rw [readField_of_ne hfield, he]
  rfl

/-- The mark after a number must be the one of the layout. -/
theorem not_fits_number_exactly {field : Field} {n : Int} {c d : Char}
    (hread : readField field cs = .ok (n, c :: rest)) (hcd : c ≠ d) :
    ¬ Fits fields (.number field :: .exactly d :: items) cs := by
  rw [fits_number_iff hread, fits_exactly_iff]
  rintro ⟨-, rest', heq, -⟩
  rw [List.cons.injEq] at heq
  exact hcd heq.1

/-- A number of two digits leaves the third one. -/
theorem not_fits_two_of_digit {field : Field} (hfield : field ≠ .year) {a b c d : Char}
    (ha : a.isDigit = true) (hb : b.isDigit = true) (hcd : c ≠ d) :
    ¬ Fits fields (.number field :: .exactly d :: items) (a :: b :: c :: rest) := by
  have htake : (([a, b] ++ c :: rest).take 2).takeWhile Char.isDigit = [a, b] := by
    simp [ha, hb]
  have hread := readDigits_eq (some 2) (List.cons_ne_nil a [b]) (by simp [ha, hb]) htake
  have htrim : Text.trimStart (a :: b :: c :: rest) = [a, b] ++ c :: rest :=
    Text.trimStart_cons_of_not_isBlank _ (Text.isBlank_eq_false_of_isDigit ha)
  have hfield' : readField field (a :: b :: c :: rest) =
      .ok ((Text.digitsValue [a, b] : Int), c :: rest) := by
    rw [readField_of_ne hfield, htrim, hread]
    rfl
  exact not_fits_number_exactly hfield' hcd

/-- A year may have less than four digits, and then it ends where they do. -/
theorem not_fits_year_of_head {a b c d : Char} (ha : a.isDigit = true) (hb : b.isDigit = true)
    (hc : c.isDigit = false) (hcd : c ≠ d) :
    ¬ Fits fields (.number .year :: .exactly d :: items) (a :: b :: c :: rest) := by
  have htake : (([a, b] ++ c :: rest).take 4).takeWhile Char.isDigit = [a, b] := by
    simp [ha, hb, hc]
  have hread := readDigits_eq (some 4) (List.cons_ne_nil a [b]) (by simp [ha, hb]) htake
  have hyear : readField .year (a :: b :: c :: rest) =
      .ok ((Text.digitsValue [a, b] : Int), c :: rest) := by
    unfold readField
    rw [Text.trimStart_cons_of_not_isBlank _ (Text.isBlank_eq_false_of_isDigit ha)]
    exact readYear_of_digit ha hread
  exact not_fits_number_exactly hyear hcd

/-! ## Fractions -/

theorem fits_fraction_nil_iff : Fits fields [.fraction] [] ↔ fields.Exist := by
  simp [Fits, readItems, Item.read, bind, Except.bind]

theorem fits_fraction_iff {ds : List Char} (hne : ds ≠ []) (hds : ∀ c ∈ ds, c.isDigit = true) :
    Fits fields [.fraction] ('.' :: ds) ↔ fields.Exist := by
  have hread := @readDigits_of_head ds [] hne hds (by simp)
  rw [List.append_nil] at hread
  simp [Fits, readItems, Item.read, hread, bind, Except.bind, pure, Except.pure]

end Calendar
end SqlDialect
