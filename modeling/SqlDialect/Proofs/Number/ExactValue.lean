import Mathlib.Data.Rat.Floor
import Mathlib.Tactic.FieldSimp
import Mathlib.Tactic.Linarith
import Mathlib.Tactic.NormNum
import Mathlib.Tactic.Positivity
import SqlDialect.Number.Binary64

/-!
# The exact value of a binary number

Every finite number is a rational number. Main statements: numbers compare as their values do; the
part behind the point is zero exactly for whole numbers, so that rounding never makes it vanish; and
what stands before the point of a whole number of 64 bits is this number.
-/

namespace SqlDialect.Binary64

/-- A magnitude with a sign. -/
def signed (negative : Bool) (magnitude : ℚ) : ℚ :=
  if negative then -magnitude else magnitude

/-- The exact value of a finite number. -/
def value? : Binary64 → Option ℚ
  | .finite negative mantissa exponent _ => some (signed negative (mantissa * 2 ^ exponent))
  | _ => none

theorem isFinite_iff {x : Binary64} : x.isFinite = true ↔ ∃ q, x.value? = some q := by
  cases x <;> simp [isFinite, value?]

theorem two_zpow_toNat {e : Int} (he : 0 ≤ e) : (2 : ℚ) ^ e.toNat = 2 ^ e := by
  rw [← zpow_natCast, Int.toNat_of_nonneg he]

theorem ratio_snd_pos (mantissa : Nat) (exponent : Int) : 0 < (ratio mantissa exponent).2 := by
  unfold ratio
  split
  · exact Nat.one_pos
  · exact Nat.two_pow_pos _

theorem ratio_snd_le {mantissa : Nat} {exponent : Int} {places : Nat} (h : -places ≤ exponent) :
    (ratio mantissa exponent).2 ≤ 2 ^ places := by
  unfold ratio
  split
  · exact Nat.one_le_two_pow
  · exact Nat.pow_le_pow_right (by decide) (by omega)

/-- The ratio of a magnitude is the magnitude. -/
theorem ratio_div (mantissa : Nat) (exponent : Int) :
    ((ratio mantissa exponent).1 : ℚ) / (ratio mantissa exponent).2 = mantissa * 2 ^ exponent := by
  unfold ratio
  split
  · next hnonneg =>
    simp only [Nat.pow_eq, Nat.cast_mul, Nat.cast_pow, Nat.cast_ofNat, Nat.cast_one, div_one]
    rw [two_zpow_toNat hnonneg]
  · next hneg =>
    simp only [Nat.pow_eq, Nat.cast_pow, Nat.cast_ofNat]
    rw [two_zpow_toNat (by omega), zpow_neg, div_inv_eq_mul]

/-! ## Rounding -/

theorem scaled_snd_pos {numerator denominator : Nat} (h : 0 < denominator) (exponent : Int) :
    0 < (scaled numerator denominator exponent).2 := by
  unfold scaled
  split
  · exact Nat.mul_pos h (Nat.two_pow_pos _)
  · exact h

theorem scaled_div (numerator denominator : Nat) (exponent : Int) :
    ((scaled numerator denominator exponent).1 : ℚ) / (scaled numerator denominator exponent).2 =
      numerator / denominator / 2 ^ exponent := by
  unfold scaled
  split
  · next hnonneg =>
    simp only [Nat.pow_eq, Nat.cast_mul, Nat.cast_pow, Nat.cast_ofNat]
    rw [two_zpow_toNat hnonneg, div_div]
  · next hneg =>
    simp only [Nat.pow_eq, Nat.cast_mul, Nat.cast_pow, Nat.cast_ofNat]
    rw [two_zpow_toNat (by omega), zpow_neg, ← div_eq_mul_inv, div_right_comm]

/-- A ratio reaches a power of two exactly when it is at least one in units of this power. -/
theorem scaled_le_iff {numerator denominator : Nat} (h : 0 < denominator) (exponent : Int) :
    (scaled numerator denominator exponent).2 ≤ (scaled numerator denominator exponent).1 ↔
      (2 : ℚ) ^ exponent ≤ numerator / denominator := by
  have hpos : (0 : ℚ) < (scaled numerator denominator exponent).2 :=
    Nat.cast_pos.2 (scaled_snd_pos h exponent)
  have hpower : (0 : ℚ) < 2 ^ exponent := zpow_pos two_pos _
  rw [← Nat.cast_le (α := ℚ), ← one_le_div₀ hpos, scaled_div, one_le_div₀ hpower]

theorem two_zpow_floorLog2_le {numerator denominator : Nat} (hn : numerator ≠ 0)
    (hd : 0 < denominator) :
    (2 : ℚ) ^ floorLog2 numerator denominator ≤ numerator / denominator := by
  have hdq : (0 : ℚ) < denominator := Nat.cast_pos.2 hd
  unfold floorLog2
  simp only []
  split
  · next hreached => exact (scaled_le_iff hd _).1 hreached
  · have hlow : (2 : ℚ) ^ numerator.log2 ≤ numerator := by
      exact_mod_cast Nat.log2_self_le hn
    have hhigh : (denominator : ℚ) ≤ 2 ^ (denominator.log2 + 1) := by
      exact_mod_cast Nat.lt_log2_self.le
    calc (2 : ℚ) ^ ((numerator.log2 : Int) - denominator.log2 - 1)
        = 2 ^ numerator.log2 / 2 ^ (denominator.log2 + 1) := by
          rw [sub_sub, zpow_sub₀ two_ne_zero, zpow_natCast]
          exact_mod_cast rfl
      _ ≤ numerator / 2 ^ (denominator.log2 + 1) := by gcongr
      _ ≤ numerator / denominator := by gcongr

theorem div_le_nearestEven (numerator denominator : Nat) :
    numerator / denominator ≤ nearestEven numerator denominator := by
  unfold nearestEven
  simp only []
  split_ifs <;> omega

/-- Rounding does not make a ratio vanish that is no smaller than the least positive number. -/
theorem exists_ofRatio {numerator denominator : Nat} (negative : Bool) (hn : numerator ≠ 0)
    (hd : 0 < denominator) (hleast : (2 : ℚ) ^ (-1074 : Int) ≤ numerator / denominator) :
    ∃ (mantissa : Nat) (exponent : Int), mantissa ≠ 0 ∧
      ofRatio negative numerator denominator = ofNormal negative mantissa exponent := by
  let exponent := max (floorLog2 numerator denominator - 52) (-1074)
  have hreached : (2 : ℚ) ^ exponent ≤ numerator / denominator := by
    rcases max_choice (floorLog2 numerator denominator - 52) (-1074) with hmax | hmax
    · have hfloor := two_zpow_floorLog2_le hn hd
      refine le_trans ?_ hfloor
      exact zpow_le_zpow_right₀ one_le_two (by omega)
    · show (2 : ℚ) ^ max (floorLog2 numerator denominator - 52) (-1074) ≤ _
      rw [hmax]
      exact hleast
  have hone : 1 ≤ nearestEven (scaled numerator denominator exponent).1
      (scaled numerator denominator exponent).2 := by
    refine le_trans ?_ (div_le_nearestEven _ _)
    exact (Nat.one_le_div_iff (scaled_snd_pos hd _)).2 ((scaled_le_iff hd _).2 hreached)
  unfold ofRatio
  rw [if_neg hn]
  show ∃ mantissa exponent, mantissa ≠ 0 ∧ ite _ _ _ = _
  split
  · exact ⟨_, _, by decide, rfl⟩
  · exact ⟨_, _, Nat.one_le_iff_ne_zero.1 hone, rfl⟩

/-! ## Comparing -/

/-- The value of a number in units of the least positive number. -/
theorem units_mul {mantissa : Nat} {exponent : Int} (negative : Bool)
    (h : Normal mantissa exponent) :
    (units negative mantissa exponent : ℚ) * 2 ^ (-1074 : Int) =
      signed negative (mantissa * 2 ^ exponent) := by
  obtain ⟨-, hleast, -, -⟩ := h
  have hmagnitude : (mantissa * 2 ^ (exponent + 1074).toNat : ℚ) * 2 ^ (-1074 : Int) =
      mantissa * 2 ^ exponent := by
    rw [two_zpow_toNat (by omega), mul_assoc, ← zpow_add₀ two_ne_zero, Int.add_neg_cancel_right]
  unfold units signed
  split
  · rw [← hmagnitude]
    simp
  · rw [← hmagnitude]
    simp

theorem compare?_eq {x y : Binary64} {p q : ℚ} (hx : x.value? = some p) (hy : y.value? = some q) :
    ∃ a b : Int, x.compare? y = some (compare a b) ∧ (a < b ↔ p < q) ∧ (a = b ↔ p = q) := by
  cases x with
  | finite negative mantissa exponent hnormal =>
    cases y with
    | finite negative' mantissa' exponent' hnormal' =>
      have hp := Option.some.inj hx
      have hq := Option.some.inj hy
      have hunit : (0 : ℚ) < 2 ^ (-1074 : Int) := zpow_pos two_pos _
      refine ⟨_, _, rfl, ?_, ?_⟩
      · rw [← hp, ← hq, ← units_mul negative hnormal, ← units_mul negative' hnormal',
          mul_lt_mul_iff_left₀ hunit, Int.cast_lt]
      · rw [← hp, ← hq, ← units_mul negative hnormal, ← units_mul negative' hnormal',
          mul_left_inj' hunit.ne', Int.cast_inj]
    | _ => cases hy
  | _ => cases hx

theorem lt_iff {x y : Binary64} {p q : ℚ} (hx : x.value? = some p) (hy : y.value? = some q) :
    x < y ↔ p < q := by
  obtain ⟨a, b, hcompare, hlt, -⟩ := compare?_eq hx hy
  show x.compare? y = some .lt ↔ _
  rw [hcompare, Option.some.injEq, compare_lt_iff_lt, hlt]

theorem le_iff {x y : Binary64} {p q : ℚ} (hx : x.value? = some p) (hy : y.value? = some q) :
    x ≤ y ↔ p ≤ q := by
  obtain ⟨a, b, hcompare, hlt, heq⟩ := compare?_eq hx hy
  show x.compare? y = some .lt ∨ x.compare? y = some .eq ↔ _
  rw [hcompare, Option.some.injEq, Option.some.injEq, compare_lt_iff_lt, compare_eq_iff_eq, hlt, heq,
    le_iff_lt_or_eq]

theorem value?_zero (negative : Bool) : (zero negative).value? = some 0 := by
  cases negative <;> simp [zero, value?, signed]

theorem isZero_iff {x : Binary64} {q : ℚ} (hx : x.value? = some q) : x.isZero = true ↔ q = 0 := by
  obtain ⟨a, b, hcompare, -, heq⟩ := compare?_eq hx (value?_zero false)
  rw [isZero, hcompare, decide_eq_true_iff, Option.some.injEq, compare_eq_iff_eq, heq]

theorem isZero_ofNormal {mantissa : Nat} (h : mantissa ≠ 0) (negative : Bool) (exponent : Int) :
    (ofNormal negative mantissa exponent).isZero = false := by
  unfold ofNormal
  split
  · next hnormal =>
    refine Bool.eq_false_iff.2 fun hzero => ?_
    have hvalue := (isZero_iff (x := .finite negative mantissa exponent hnormal) rfl).1 hzero
    have hpower : (2 : ℚ) ^ exponent ≠ 0 := zpow_ne_zero _ two_ne_zero
    cases negative <;> simp [signed, h, hpower] at hvalue
  · cases negative <;> rfl

/-! ## Whole numbers -/

/-- The signed ratio of a finite number is its value. -/
theorem signed_ratio (negative : Bool) (mantissa : Nat) (exponent : Int) :
    signed negative ((ratio mantissa exponent).1 / (ratio mantissa exponent).2) =
      signed negative (mantissa * 2 ^ exponent) := by
  rw [ratio_div]

theorem fract_signed_eq_zero_iff (negative : Bool) {n d : Nat} (hd : 0 < d) :
    Int.fract (signed negative (n / d)) = 0 ↔ n % d = 0 := by
  have hdq : (d : ℚ) ≠ 0 := Nat.cast_ne_zero.2 hd.ne'
  rw [Int.fract_eq_zero_iff, ← Nat.dvd_iff_mod_eq_zero]
  constructor
  · rintro ⟨z, hz⟩
    have hmul : ((if negative then -z else z : Int) : ℚ) * d = n := by
      cases negative <;> simp_all [signed]
    have hint : (if negative then -z else z) * (d : Int) = n := by exact_mod_cast hmul
    exact Int.natCast_dvd_natCast.1 ⟨_, by rw [← hint, mul_comm]⟩
  · rintro ⟨k, rfl⟩
    refine ⟨if negative then -(k : Int) else k, ?_⟩
    cases negative <;> simp [signed, hdq]

theorem two_zpow_neg_le_div {n d places : Nat} (hn : n ≠ 0) (hd : 0 < d) (h : d ≤ 2 ^ places) :
    (2 : ℚ) ^ (-places : Int) ≤ n / d := by
  have hone : (1 : ℚ) ≤ n := by exact_mod_cast Nat.one_le_iff_ne_zero.2 hn
  have hdq : (0 : ℚ) < d := Nat.cast_pos.2 hd
  have hle : (d : ℚ) ≤ 2 ^ places := by exact_mod_cast h
  calc (2 : ℚ) ^ (-places : Int) = 1 / 2 ^ places := by rw [zpow_neg, zpow_natCast, one_div]
    _ ≤ 1 / d := one_div_le_one_div_of_le hdq hle
    _ ≤ n / d := by gcongr

theorem fraction_finite (negative : Bool) {mantissa : Nat} {exponent : Int}
    (h : Normal mantissa exponent) :
    (finite negative mantissa exponent h).fraction =
      ofRatio negative ((ratio mantissa exponent).1 % (ratio mantissa exponent).2)
        (ratio mantissa exponent).2 :=
  rfl

/-- The part behind the point is zero exactly for whole numbers. -/
theorem isZero_fraction_iff {x : Binary64} {q : ℚ} (hx : x.value? = some q) :
    x.fraction.isZero = true ↔ Int.fract q = 0 := by
  cases x with
  | finite negative mantissa exponent hnormal =>
    have hd := ratio_snd_pos mantissa exponent
    have hplaces : (ratio mantissa exponent).2 ≤ 2 ^ 1074 := ratio_snd_le hnormal.2.1
    rw [← Option.some.inj hx, ← signed_ratio, fract_signed_eq_zero_iff negative hd, fraction_finite]
    by_cases hzero : (ratio mantissa exponent).1 % (ratio mantissa exponent).2 = 0
    · rw [hzero]
      refine iff_of_true ?_ rfl
      exact (isZero_iff (value?_zero negative)).2 rfl
    · have hleast := two_zpow_neg_le_div hzero hd hplaces
      rw [Nat.cast_ofNat] at hleast
      obtain ⟨mantissa', exponent', hne, hrounded⟩ := exists_ofRatio negative hzero hd hleast
      rw [hrounded, isZero_ofNormal hne]
      exact iff_of_false Bool.false_ne_true hzero
  | _ => cases hx

theorem toInt64_finite (negative : Bool) {mantissa : Nat} {exponent : Int}
    (h : Normal mantissa exponent) {count : Nat}
    (hcount : (ratio mantissa exponent).1 / (ratio mantissa exponent).2 = count) :
    (finite negative mantissa exponent h).toInt64 =
      .ofIntClamp (if negative then -(count : Int) else count) := by
  rw [← hcount]
  rfl

/-- A whole number of 64 bits is what stands before its point. -/
theorem toInt_toInt64 {x : Binary64} {q : ℚ} (hx : x.value? = some q) (hwhole : Int.fract q = 0)
    (hlow : -2 ^ 63 ≤ q) (hhigh : q < 2 ^ 63) : (x.toInt64.toInt : ℚ) = q := by
  cases x with
  | finite negative mantissa exponent hnormal =>
    have hd := ratio_snd_pos mantissa exponent
    have hdq : ((ratio mantissa exponent).2 : ℚ) ≠ 0 := Nat.cast_ne_zero.2 hd.ne'
    have hvalue := Option.some.inj hx
    rw [← signed_ratio] at hvalue
    rw [← hvalue, fract_signed_eq_zero_iff negative hd] at hwhole
    obtain ⟨count, hcount⟩ := Nat.dvd_of_mod_eq_zero hwhole
    have hquotient : (ratio mantissa exponent).1 / (ratio mantissa exponent).2 = count := by
      rw [hcount, Nat.mul_div_cancel_left _ hd]
    have hq : q = ((if negative then -(count : Int) else count : Int) : ℚ) := by
      rw [← hvalue, hcount, Nat.cast_mul, mul_div_cancel_left₀ _ hdq]
      cases negative <;> simp [signed]
    rw [toInt64_finite negative hnormal hquotient, hq]
    rw [hq] at hlow hhigh
    have hlow' : -2 ^ 63 ≤ (if negative then -(count : Int) else count) := by exact_mod_cast hlow
    have hhigh' : (if negative then -(count : Int) else count) < 2 ^ 63 := by exact_mod_cast hhigh
    rw [Int64.toInt_ofIntClamp hlow' (Int.le_sub_one_of_lt hhigh')]
  | _ => cases hx

/-! ## The limits of 64 bits -/

/-- The least integer of 64 bits is a binary number. -/
theorem value?_ofInt_minValue : (ofInt Int64.minValue.toInt).value? = some (-2 ^ 63) := by
  have hlimit : ofInt Int64.minValue.toInt = finite true (2 ^ 52) 11 (by decide) := by decide
  rw [hlimit, value?, signed]
  norm_num

/-- The greatest integer of 64 bits is rounded up to the first that is beyond them. -/
theorem value?_ofInt_maxValue : (ofInt Int64.maxValue.toInt).value? = some (2 ^ 63) := by
  have hlimit : ofInt Int64.maxValue.toInt = finite false (2 ^ 52) 11 (by decide) := by decide
  rw [hlimit, value?, signed]
  norm_num

end SqlDialect.Binary64
