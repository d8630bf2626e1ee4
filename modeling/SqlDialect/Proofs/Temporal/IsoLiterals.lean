import SqlDialect.Expr.TemporalLiteral
import SqlDialect.Proofs.Calendar.IsoTexts

/-!
# Temporal literals in ISO spellings

Several layouts are tried on a text, but at most one of them fits the marks between the numbers of
an ISO spelling, so a number that is out of range is refused by that one and by all others. Main
statement: a literal in one of these spellings, with any blanks around it, is temporal exactly when
its numbers are those of a date and a time.
-/

namespace SqlDialect

open Calendar

/-! ## Internet time

It ends with a zone, so a text that has only digits where the zone would stand is none. -/

namespace Calendar.InternetTime

theorem exists_of_bind_fixedDigits? {width : Nat} {cs : List Char} {t : DateTime}
    {f : Nat × List Char → Option DateTime}
    (h : (Text.fixedDigits? width cs).bind f = some t) : ∃ n, f (n, cs.drop width) = some t := by
  obtain ⟨⟨n, rest⟩, hdigits, hf⟩ := Option.bind_eq_some_iff.1 h
  unfold Text.fixedDigits? at hdigits
  simp only at hdigits
  split at hdigits
  · cases hdigits
    exact ⟨_, hf⟩
  · cases hdigits

theorem exists_of_bind_oneOf? {wanted cs : List Char} {t : DateTime}
    {f : Char × List Char → Option DateTime}
    (h : (oneOf? wanted cs).bind f = some t) : ∃ c, f (c, cs.drop 1) = some t := by
  obtain ⟨⟨c, rest⟩, hmark, hf⟩ := Option.bind_eq_some_iff.1 h
  unfold oneOf? at hmark
  split at hmark
  · cases hmark
  · split at hmark
    · cases hmark
      exact ⟨_, hf⟩
    · cases hmark

theorem mem_of_skipFraction? {cs rest : List Char} {c : Char}
    (h : skipFraction? cs = some rest) (hc : c ∈ rest) : c ∈ cs := by
  unfold skipFraction? at h
  split at h
  · split at h
    · cases h
    · cases h
      exact List.mem_cons_of_mem _ (List.dropWhile_subset _ hc)
  · cases h
    exact hc

/-- A zone has a letter or a sign, which no fraction of a second has. -/
theorem exists_of_isZone {cs : List Char} (h : isZone cs = true) :
    ∃ c ∈ cs, c.isDigit = false ∧ c ≠ '.' := by
  unfold isZone at h
  simp only [Bool.or_eq_true, decide_eq_true_eq] at h
  rcases h with (rfl | rfl) | h
  · exact ⟨'Z', List.mem_cons_self, by decide, by decide⟩
  · exact ⟨'z', List.mem_cons_self, by decide, by decide⟩
  · obtain ⟨u, h⟩ := Option.isSome_iff_exists.1 h
    obtain ⟨⟨c, rest⟩, hsign, -⟩ := Option.bind_eq_some_iff.1 h
    unfold oneOf? at hsign
    split at hsign
    · cases hsign
    · split at hsign
      · next hmem =>
        refine ⟨_, List.mem_cons_self, ?_⟩
        simp only [List.mem_cons, List.not_mem_nil, or_false] at hmem
        rcases hmem with rfl | rfl | rfl <;> decide
      · cases hsign

/-- Every part up to the seconds has its width, so the zone comes after nineteen characters. -/
theorem read?_append_eq_none {front tail : List Char} (hfront : front.length ≤ 19)
    (htail : ∀ c ∈ tail, c.isDigit = true ∨ c = '.') : read? (front ++ tail) = none := by
  rw [Option.eq_none_iff_forall_not_mem]
  intro t ht
  unfold read? at ht
  obtain ⟨year, ht⟩ := exists_of_bind_fixedDigits? ht
  obtain ⟨_, ht⟩ := exists_of_bind_oneOf? ht
  obtain ⟨month, ht⟩ := exists_of_bind_fixedDigits? ht
  obtain ⟨_, ht⟩ := exists_of_bind_oneOf? ht
  obtain ⟨day, ht⟩ := exists_of_bind_fixedDigits? ht
  obtain ⟨_, ht⟩ := exists_of_bind_oneOf? ht
  obtain ⟨hour, ht⟩ := exists_of_bind_fixedDigits? ht
  obtain ⟨_, ht⟩ := exists_of_bind_oneOf? ht
  obtain ⟨minute, ht⟩ := exists_of_bind_fixedDigits? ht
  obtain ⟨_, ht⟩ := exists_of_bind_oneOf? ht
  obtain ⟨second, ht⟩ := exists_of_bind_fixedDigits? ht
  obtain ⟨zone, hfraction, ht⟩ := Option.bind_eq_some_iff.1 ht
  obtain ⟨date, -, ht⟩ := Option.bind_eq_some_iff.1 ht
  obtain ⟨time, -, ht⟩ := Option.bind_eq_some_iff.1 ht
  have hzone : isZone zone = true := (Option.ite_none_right_eq_some.1 ht).1
  obtain ⟨c, hc, hdigit, hpoint⟩ := exists_of_isZone hzone
  have hmem := mem_of_skipFraction? hfraction hc
  simp only [List.drop_drop] at hmem
  rw [List.drop_append, List.drop_eq_nil_of_le hfront, List.nil_append] at hmem
  rcases htail c (List.mem_of_mem_drop hmem) with hc | hc
  · rw [hdigit] at hc
    exact absurd hc (by decide)
  · exact hpoint hc

end Calendar.InternetTime

/-! ## Texts -/

theorem readsAsTemporal_iff {cs : List Char} (h : InternetTime.read? cs = none) :
    readsAsTemporal cs = true ↔ ∃ layout ∈ temporalLayouts, Fits {} layout cs := by
  unfold readsAsTemporal
  rw [h, Option.isSome_none, Bool.or_false, List.any_eq_true]
  simp only [isOk_iff, exists_read_iff]

namespace Calendar.IsoNumbers

variable {n : IsoNumbers} {rest tail : List Char} {separator : Char}

theorem readsAsTemporal_dateChars_append_iff (h : InternetTime.read? (n.dateChars ++ rest) = none) :
    readsAsTemporal (n.dateChars ++ rest) = true ↔
      (n.Admitted .year ∧ n.Admitted .month ∧ n.Admitted .day) ∧
        (rest = [] ∧ (n.putDate {}).Exist ∨
          Fits (n.putDate {}) (.exactly 'T' :: (secondLayout ++ [.fraction])) rest ∨
          Fits (n.putDate {}) (.blanks :: (secondLayout ++ [.fraction])) rest ∨
          Fits (n.putDate {}) (.exactly 'T' :: minuteLayout) rest ∨
          Fits (n.putDate {}) (.blanks :: minuteLayout) rest) := by
  have hdate := @fits_dateLayout_iff n {} [] rest
  rw [List.append_nil, fits_nil_iff] at hdate
  have htime : ¬ Fits {} (secondLayout ++ [.fraction]) (n.dateChars ++ rest) := by
    rw [dateChars, List.append_assoc]
    exact not_fits_secondLayout_year
  rw [readsAsTemporal_iff h]
  simp only [temporalLayouts, List.append_assoc, List.cons_append, List.nil_append,
    List.exists_mem_cons_iff, List.not_mem_nil, false_and, exists_false, htime, hdate,
    fits_dateLayout_iff, or_false, and_or_left]

theorem readsAsTemporal_dateChars_iff : readsAsTemporal n.dateChars = true ↔ n.DateExists := by
  have hzone : InternetTime.read? (n.dateChars ++ []) = none :=
    InternetTime.read?_append_eq_none (by rw [length_dateChars]; decide) (by simp)
  -- after a date without a time only the layout of a date is left
  have hletter (items : List Item) : ¬ Fits (n.putDate {}) (.exactly 'T' :: items) [] := by
    simp [fits_exactly_iff]
  have hblanks (items : List Item) :
      ¬ Fits (n.putDate {}) (.blanks :: .number .hour :: items) [] := by
    rw [fits_blanks_iff]
    exact not_fits_of_head (by decide) (by simp [Text.trimStart])
  have hiff := readsAsTemporal_dateChars_append_iff hzone
  rw [List.append_nil] at hiff
  rw [hiff, ← exist_date_iff]
  simp only [secondLayout, minuteLayout, List.cons_append, List.nil_append, hletter, hblanks,
    or_false, true_and]

theorem readsAsTemporal_joined_iff (hseparator : separator = 'T' ∨ separator = ' ')
    {cs : List Char} (hcs : ∀ c ∈ cs.head?, Text.isBlank c = false)
    (h : InternetTime.read? (n.dateChars ++ separator :: cs) = none) :
    readsAsTemporal (n.dateChars ++ separator :: cs) = true ↔
      (n.Admitted .year ∧ n.Admitted .month ∧ n.Admitted .day) ∧ FitsTime (n.putDate {}) cs := by
  have hsecond := @fits_separated_iff (n.putDate {})
    (.exactly ':' :: .number .minute :: .exactly ':' :: .number .second :: [.fraction])
    separator hseparator cs hcs
  have hminute := @fits_separated_iff (n.putDate {}) (.exactly ':' :: .number .minute :: [])
    separator hseparator cs hcs
  have hnil : ¬ (separator :: cs = [] ∧ (n.putDate {}).Exist) :=
    fun h => List.cons_ne_nil _ _ h.1
  rw [readsAsTemporal_dateChars_append_iff h, FitsTime, or_iff_right hnil, ← or_assoc]
  exact and_congr_right fun _ => or_congr hsecond hminute

theorem readsAsTemporal_dateMinute_iff (hseparator : separator = 'T' ∨ separator = ' ') :
    readsAsTemporal (n.dateChars ++ separator :: n.minuteChars) = true ↔
      n.DateExists ∧ n.MinuteExists := by
  have hlength : (n.dateChars ++ separator :: n.minuteChars).length ≤ 19 := by
    simp [length_dateChars, length_minuteChars]
  have hzone := @InternetTime.read?_append_eq_none _ [] hlength (by simp)
  rw [List.append_nil] at hzone
  rw [readsAsTemporal_joined_iff hseparator n.isTight_minuteChars.head hzone,
    fitsTime_minuteChars_iff]
  exact exist_dateMinute_iff

theorem readsAsTemporal_dateSecond_iff (hseparator : separator = 'T' ∨ separator = ' ')
    (htail : SecondTail tail) :
    readsAsTemporal (n.dateChars ++ separator :: (n.secondChars ++ tail)) = true ↔
      n.DateExists ∧ n.SecondExists := by
  have hlength : (n.dateChars ++ separator :: n.secondChars).length ≤ 19 := by
    simp [length_dateChars, length_secondChars]
  have hzone := InternetTime.read?_append_eq_none hlength fun _ => htail.of_mem
  rw [List.append_assoc, List.cons_append] at hzone
  have hhead := (htail.isTight_append n.isTight_secondChars).head
  rw [readsAsTemporal_joined_iff hseparator hhead hzone, fitsTime_secondChars_iff htail]
  exact exist_dateSecond_iff

theorem readsAsTemporal_second_iff (htail : SecondTail tail) :
    readsAsTemporal (n.secondChars ++ tail) = true ↔ n.SecondExists := by
  have hzone : InternetTime.read? (n.secondChars ++ tail) = none :=
    InternetTime.read?_append_eq_none (by rw [length_secondChars]; decide) fun _ => htail.of_mem
  have hdate (items : List Item) : ¬ Fits {} (dateLayout ++ items) (n.secondChars ++ tail) := by
    rw [secondChars, minuteChars, List.append_assoc, List.append_assoc, List.cons_append]
    exact not_fits_dateLayout_hour
  have hdate' := hdate []
  rw [List.append_nil] at hdate'
  rw [readsAsTemporal_iff hzone, ← exist_second_iff]
  simp only [temporalLayouts, List.append_assoc, List.cons_append, List.nil_append,
    List.exists_mem_cons_iff, List.not_mem_nil, false_and, exists_false, hdate, hdate',
    fits_secondLayout_iff, htail.fits_iff, or_false, false_or]

end Calendar.IsoNumbers

/-! ## Literals -/

/-- The string literal with a text between blanks. -/
def Expr.spaced (before cs after : List Char) : Expr :=
  .string (String.ofList (before ++ cs ++ after))

theorem Expr.isTemporalLiteral_spaced {before cs after : List Char}
    (hbefore : before.all Text.isBlank = true) (hcs : Text.IsTight cs)
    (hafter : after.all Text.isBlank = true) :
    (Expr.spaced before cs after).isTemporalLiteral = readsAsTemporal cs := by
  show readsAsTemporal (Text.trim (String.ofList (before ++ cs ++ after)).toList) = _
  rw [String.toList_ofList, hcs.trim_append hbefore hafter]

namespace Calendar.IsoNumbers

/-- The literals `YYYY-MM-DD`, `YYYY-MM-DDTHH:MM`, `YYYY-MM-DDTHH:MM:SS`, `HH:MM:SS`, with a space
for the `T` and with a fraction of a second too, are temporal exactly when all their numbers are in
range. -/
theorem isTemporalLiteral_iff (n : IsoNumbers) {separator : Char}
    (hseparator : separator = 'T' ∨ separator = ' ') {fraction : List Char} (hne : fraction ≠ [])
    (hfraction : ∀ c ∈ fraction, c.isDigit = true) {before after : List Char}
    (hbefore : before.all Text.isBlank = true) (hafter : after.all Text.isBlank = true) :
    ((Expr.spaced before n.dateChars after).isTemporalLiteral = true ↔ n.DateExists) ∧
      ((Expr.spaced before (n.dateChars ++ separator :: n.minuteChars) after).isTemporalLiteral =
        true ↔ n.DateExists ∧ n.MinuteExists) ∧
      ((Expr.spaced before (n.dateChars ++ separator :: n.secondChars) after).isTemporalLiteral =
        true ↔ n.DateExists ∧ n.SecondExists) ∧
      ((Expr.spaced before (n.dateChars ++ separator :: (n.secondChars ++ '.' :: fraction))
        after).isTemporalLiteral = true ↔ n.DateExists ∧ n.SecondExists) ∧
      ((Expr.spaced before n.secondChars after).isTemporalLiteral = true ↔ n.SecondExists) ∧
      ((Expr.spaced before (n.secondChars ++ '.' :: fraction) after).isTemporalLiteral = true ↔
        n.SecondExists) := by
  have htail := SecondTail.fraction hne hfraction
  have hsecond := htail.isTight_append n.isTight_secondChars
  have hspaced {cs : List Char} (hcs : Text.IsTight cs) :=
    Expr.isTemporalLiteral_spaced hbefore hcs hafter
  rw [hspaced n.isTight_dateChars, hspaced (n.isTight_dateChars.append_cons n.isTight_minuteChars),
    hspaced (n.isTight_dateChars.append_cons n.isTight_secondChars),
    hspaced (n.isTight_dateChars.append_cons hsecond), hspaced n.isTight_secondChars,
    hspaced hsecond]
  have hplain := @readsAsTemporal_dateSecond_iff n [] separator hseparator .none
  have hplain' := @readsAsTemporal_second_iff n [] .none
  rw [List.append_nil] at hplain hplain'
  exact ⟨readsAsTemporal_dateChars_iff, readsAsTemporal_dateMinute_iff hseparator, hplain,
    readsAsTemporal_dateSecond_iff hseparator htail, hplain', readsAsTemporal_second_iff htail⟩

/-- The leap second at the end of a 29th of February. -/
def leapDayOf (year : Nat) (h : year < 10000) : IsoNumbers where
  number
    | .year => year
    | .month => 2
    | .day => 29
    | .hour => 23
    | .minute => 59
    | .second => 60
  width
    | .year => h
    | .month => show 2 < 100 by decide
    | .day => show 29 < 100 by decide
    | .hour => show 23 < 100 by decide
    | .minute => show 59 < 100 by decide
    | .second => show 60 < 100 by decide

theorem isTemporalLiteral_iff_of_leapDay :
    (Expr.string "\u2003 2000-02-29T23:59:60.1234567890123\n").isTemporalLiteral = true ∧
      (Expr.string "\u2003 1900-02-29T23:59:60.1234567890123\n").isTemporalLiteral = false := by
  have hfraction : ∀ c ∈ "1234567890123".toList, c.isDigit = true :=
    List.all_eq_true.1 (by decide)
  have hbefore : "\u2003 ".toList.all Text.isBlank = true := by decide
  have hafter : "\n".toList.all Text.isBlank = true := by decide
  obtain ⟨-, -, -, hleap, -⟩ := isTemporalLiteral_iff (leapDayOf 2000 (by decide)) (.inl rfl)
    (by decide) hfraction hbefore hafter
  obtain ⟨-, -, -, hcommon, -⟩ := isTemporalLiteral_iff (leapDayOf 1900 (by decide)) (.inl rfl)
    (by decide) hfraction hbefore hafter
  constructor
  · exact hleap.2 (by decide)
  · exact Bool.eq_false_iff.2 fun h => absurd (hcommon.1 h) (by decide)

end Calendar.IsoNumbers
end SqlDialect
