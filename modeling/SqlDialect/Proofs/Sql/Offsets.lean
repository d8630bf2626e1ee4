import SqlDialect.Proofs.Number.ExactValue
import SqlDialect.Proofs.Sql.ReadBack
import SqlDialect.Temporal

/-!
# Offsets from the current time

The amount of an offset is a binary number, its count an integer of 64 bits. Main statement: an
offset is built exactly for whole numbers of 64 bits and counts just as many units, and its text
tells the unit and the count.
-/

namespace SqlDialect

theorem IntervalUnit.isWord_token (unit : IntervalUnit) : isWord unit.token.toList = true := by
  cases unit <;> decide

theorem IntervalUnit.token_injective : Function.Injective IntervalUnit.token := by
  intro unit unit' h
  have hfound := IntervalUnit.ofToken?_token unit
  rw [h, IntervalUnit.ofToken?_token] at hfound
  exact (Option.some.inj hfound).symm

namespace Expr

/-- The current time moved by a count of units. -/
def movedNow (count : Int) (unit : IntervalUnit) : Expr :=
  .binary .now .plus (.interval count unit.token)

theorem plain_movedNow (count : Int) (unit : IntervalUnit) : (movedNow count unit).Plain :=
  .binary .plus .now (.interval count unit.isWord_token)

/-- The text of an offset tells how far the current time is moved. -/
theorem sql_movedNow_inj {count count' : Int} {unit unit' : IntervalUnit} :
    (movedNow count unit).sql = (movedNow count' unit').sql ↔ unit = unit' ∧ count = count' := by
  constructor
  · intro hsql
    have hdenotes := (plain_movedNow count unit).denotes
    rw [hsql] at hdenotes
    have hsame := hdenotes.unique (plain_movedNow count' unit').denotes
    simp only [movedNow, Expr.binary.injEq, Expr.interval.injEq] at hsame
    obtain ⟨-, -, hcount, htoken⟩ := hsame
    exact ⟨IntervalUnit.token_injective htoken, hcount⟩
  · rintro ⟨rfl, rfl⟩
    rfl

/-- What is asked of the amount of an offset. -/
def IsCount (q : ℚ) : Prop :=
  Int.fract q = 0 ∧ -2 ^ 63 ≤ q ∧ q < 2 ^ 63

theorem offsetFromNow_of_not_finite (unit : IntervalUnit) {amount : Binary64}
    (h : amount.isFinite = false) :
    offsetFromNow unit amount = .error (.invalidOffsetAmount amount) := by
  rw [offsetFromNow, h]
  rfl

theorem offsetFromNow_of_isCount (unit : IntervalUnit) {amount : Binary64} {q : ℚ}
    (hq : amount.value? = some q) (h : IsCount q) :
    offsetFromNow unit amount = .ok (movedNow amount.toInt64.toInt unit) := by
  obtain ⟨hwhole, hlow, hhigh⟩ := h
  have hfinite : amount.isFinite = true := Binary64.isFinite_iff.2 ⟨q, hq⟩
  have hfraction : amount.fraction.isZero = true := (Binary64.isZero_fraction_iff hq).2 hwhole
  have hnotLess : ¬ amount < .ofInt Int64.minValue.toInt := by
    rw [Binary64.lt_iff hq Binary64.value?_ofInt_minValue]
    exact not_lt.2 hlow
  have hnotBeyond : ¬ .ofInt Int64.maxValue.toInt ≤ amount := by
    rw [Binary64.le_iff Binary64.value?_ofInt_maxValue hq]
    exact not_le.2 hhigh
  rw [offsetFromNow, hfinite, hfraction, if_neg (by decide), if_neg (not_or.2 ⟨hnotLess, hnotBeyond⟩)]
  rfl

theorem offsetFromNow_of_not_isCount (unit : IntervalUnit) {amount : Binary64} {q : ℚ}
    (hq : amount.value? = some q) (h : ¬ IsCount q) :
    offsetFromNow unit amount = .error (.invalidOffsetAmount amount) := by
  unfold offsetFromNow
  split
  · rfl
  · next haccepted =>
    rw [Bool.or_eq_true, not_or, Bool.not_eq_true', Bool.not_eq_false, Bool.not_eq_true',
      Bool.not_eq_false, Binary64.isZero_fraction_iff hq] at haccepted
    rw [if_pos]
    rw [Binary64.lt_iff hq Binary64.value?_ofInt_minValue,
      Binary64.le_iff Binary64.value?_ofInt_maxValue hq]
    by_contra hbetween
    rw [not_or, not_lt, not_le] at hbetween
    exact h ⟨haccepted.2, hbetween⟩

/-- An amount is a count, and so many units are built, or it is none and is refused. -/
theorem offsetFromNow_cases (unit : IntervalUnit) (amount : Binary64) :
    (∃ q, amount.value? = some q ∧ IsCount q ∧
      offsetFromNow unit amount = .ok (movedNow amount.toInt64.toInt unit)) ∨
    ((∀ q, amount.value? = some q → ¬ IsCount q) ∧
      offsetFromNow unit amount = .error (.invalidOffsetAmount amount)) := by
  cases hfinite : amount.isFinite with
  | false =>
    refine Or.inr ⟨fun q hq => ?_, offsetFromNow_of_not_finite unit hfinite⟩
    rw [Binary64.isFinite_iff.2 ⟨q, hq⟩] at hfinite
    cases hfinite
  | true =>
    obtain ⟨q, hq⟩ := Binary64.isFinite_iff.1 hfinite
    by_cases hcount : IsCount q
    · exact Or.inl ⟨q, hq, hcount, offsetFromNow_of_isCount unit hq hcount⟩
    · refine Or.inr ⟨fun q' hq' => ?_, offsetFromNow_of_not_isCount unit hq hcount⟩
      rw [hq] at hq'
      exact Option.some.inj hq' ▸ hcount

variable {unit : IntervalUnit} {amount : Binary64}

theorem exists_offsetFromNow_iff :
    (∃ e, offsetFromNow unit amount = .ok e) ↔ ∃ q, amount.value? = some q ∧ IsCount q := by
  constructor
  · rintro ⟨e, he⟩
    rcases offsetFromNow_cases unit amount with ⟨q, hq, hcount, -⟩ | ⟨-, herror⟩
    · exact ⟨q, hq, hcount⟩
    · rw [herror] at he
      cases he
  · rintro ⟨q, hq, hcount⟩
    exact ⟨_, offsetFromNow_of_isCount unit hq hcount⟩

/-- An offset that is built counts its amount. -/
theorem value?_of_offsetFromNow {e : Expr} (h : offsetFromNow unit amount = .ok e) :
    amount.value? = some (amount.toInt64.toInt : ℚ) ∧ e = movedNow amount.toInt64.toInt unit := by
  rcases offsetFromNow_cases unit amount with ⟨q, hq, ⟨hwhole, hlow, hhigh⟩, hok⟩ | ⟨-, herror⟩
  · rw [hok] at h
    rw [Binary64.toInt_toInt64 hq hwhole hlow hhigh]
    exact ⟨hq, (Except.ok.inj h).symm⟩
  · rw [herror] at h
    cases h

/-- An offset that is not built is refused for its amount. -/
theorem eq_of_offsetFromNow_eq_error {error : RequestError}
    (h : offsetFromNow unit amount = .error error) : error = .invalidOffsetAmount amount := by
  rcases offsetFromNow_cases unit amount with ⟨q, -, -, hok⟩ | ⟨-, herror⟩
  · rw [hok] at h
    cases h
  · rw [herror] at h
    exact (Except.error.inj h).symm

/-- An offset is built exactly when its amount is finite, has nothing behind the point and fits into
64 bits, and then it counts as many units as the amount is; any other amount is refused. Two offsets
have the same text exactly when the units are the same and the amounts are equal as numbers. -/
theorem offsetFromNow_exact :
    (∀ (unit : IntervalUnit) (amount : Binary64), (∃ e, offsetFromNow unit amount = .ok e) ↔
      ∃ q : ℚ, amount.value? = some q ∧ Int.fract q = 0 ∧ -2 ^ 63 ≤ q ∧ q < 2 ^ 63) ∧
    (∀ (unit : IntervalUnit) (amount : Binary64) (e : Expr), offsetFromNow unit amount = .ok e →
      ∃ count : Int64, amount.value? = some (count.toInt : ℚ) ∧
        e = .binary .now .plus (.interval count.toInt unit.token)) ∧
    (∀ (unit : IntervalUnit) (amount : Binary64) (error : RequestError),
      offsetFromNow unit amount = .error error → error = .invalidOffsetAmount amount) ∧
    ∀ (unit unit' : IntervalUnit) (amount amount' : Binary64) (e e' : Expr),
      offsetFromNow unit amount = .ok e → offsetFromNow unit' amount' = .ok e' →
        (e.sql = e'.sql ↔ unit = unit' ∧ amount.value? = amount'.value?) := by
  refine ⟨fun unit amount => exists_offsetFromNow_iff, ?_,
    fun unit amount error h => eq_of_offsetFromNow_eq_error h, ?_⟩
  · intro unit amount e he
    exact ⟨amount.toInt64, value?_of_offsetFromNow he⟩
  · intro unit unit' amount amount' e e' he he'
    obtain ⟨hamount, rfl⟩ := value?_of_offsetFromNow he
    obtain ⟨hamount', rfl⟩ := value?_of_offsetFromNow he'
    rw [sql_movedNow_inj, hamount, hamount', Option.some.injEq, Int.cast_inj]

/-- The least integer of 64 bits is an amount, the first number beyond the greatest is none, and the
zeros of both signs are written alike. -/
theorem offsetFromNow_exact_at_the_limits :
    let least : Binary64 := .finite true (2 ^ 52) 11 (by decide)
    let beyond : Binary64 := .finite false (2 ^ 52) 11 (by decide)
    (∃ e, offsetFromNow .day least = .ok e) ∧
      offsetFromNow .day beyond = .error (.invalidOffsetAmount beyond) ∧
      ∃ e e' : Expr, offsetFromNow .day (.zero true) = .ok e ∧
        offsetFromNow .day (.zero false) = .ok e' ∧ e.sql = e'.sql := by
  intro least beyond
  obtain ⟨hbuilt, -, hrefused, hsame⟩ := offsetFromNow_exact
  have hleast : least.value? = some (-2 ^ 63) := by
    show some _ = _
    norm_num [Binary64.signed]
  have hbeyond : beyond.value? = some (2 ^ 63) := by
    show some _ = _
    norm_num [Binary64.signed]
  have hzero (negative : Bool) : ∃ e, offsetFromNow .day (.zero negative) = .ok e :=
    (hbuilt _ _).2 ⟨0, Binary64.value?_zero negative, by norm_num⟩
  obtain ⟨e, he⟩ := hzero true
  obtain ⟨e', he'⟩ := hzero false
  refine ⟨(hbuilt _ _).2 ⟨_, hleast, by norm_num⟩, ?_, e, e', he, he', ?_⟩
  · cases hresult : offsetFromNow .day beyond with
    | ok e =>
      obtain ⟨q, hq, -, -, hhigh⟩ := (hbuilt _ _).1 ⟨e, hresult⟩
      rw [hbeyond] at hq
      exact absurd hhigh (Option.some.inj hq ▸ lt_irrefl _)
    | error error => rw [hrefused _ _ _ hresult]
  · refine (hsame _ _ _ _ _ _ he he').2 ⟨rfl, ?_⟩
    rw [Binary64.value?_zero, Binary64.value?_zero]

end Expr
end SqlDialect
