import Mathlib.Data.Rat.Floor
import Mathlib.Tactic.FieldSimp
import Mathlib.Tactic.Linarith
import Mathlib.Tactic.NormNum
import Mathlib.Tactic.Positivity
import SqlDialect.Number.Shortest

/-!
# Decimals as rational numbers

The value of a decimal, the powers of ten that it lies between, and the power of ten of the first
digit of a ratio. Main statement: a decimal without a zero at the end is determined by its value.
-/

namespace SqlDialect

/-! ## Powers of ten -/

namespace Text

theorem length_digits_pos (n : Nat) : 0 < (digits n).length :=
  List.length_pos_iff.2 (digits_ne_nil n)

theorem length_digits_le_iff {n places : Nat} (h : 0 < places) :
    (digits n).length ≤ places ↔ n < 10 ^ places :=
  Nat.length_toDigits_le_iff (by decide) h

theorem lt_pow_length_digits (n : Nat) : n < 10 ^ (digits n).length :=
  (length_digits_le_iff (length_digits_pos n)).1 (Nat.le_refl _)

theorem pow_length_digits_le {n : Nat} (h : 0 < n) : 10 ^ ((digits n).length - 1) ≤ n := by
  by_cases hone : (digits n).length = 1
  · rw [hone]
    exact h
  · have hpos : 0 < (digits n).length - 1 := by
      have := length_digits_pos n
      omega
    refine Nat.le_of_not_lt fun hlt => ?_
    have := (length_digits_le_iff hpos).2 hlt
    omega

end Text

theorem ten_zpow_pos (e : Int) : (0 : ℚ) < 10 ^ e :=
  zpow_pos (by norm_num) e

theorem ten_zpow_lt_iff {e e' : Int} : (10 : ℚ) ^ e < 10 ^ e' ↔ e < e' :=
  zpow_lt_zpow_iff_right₀ (by norm_num)

theorem ten_zpow_le_iff {e e' : Int} : (10 : ℚ) ^ e ≤ 10 ^ e' ↔ e ≤ e' :=
  zpow_le_zpow_iff_right₀ (by norm_num)

/-- A power with its exponent cut off at zero. -/
theorem pow_toNat {a : ℚ} (ha : a ≠ 0) (e : Int) : a ^ e.toNat = a ^ e * a ^ (-e).toNat := by
  rw [← zpow_natCast, ← zpow_natCast, ← zpow_add₀ ha]
  congr 1
  omega

namespace Shortest

/-! ## The first digit of a ratio -/

theorem ten_pow_le_div_iff {n d : Nat} (hd : 0 < d) (places : Nat) :
    (10 : ℚ) ^ (places : Int) ≤ n / d ↔ 10 ^ places * d ≤ n := by
  rw [le_div_iff₀ (Nat.cast_pos.2 hd), zpow_natCast]
  exact_mod_cast Iff.rfl

theorem ten_pow_neg_le_div_iff {n d : Nat} (hd : 0 < d) (places : Nat) :
    (10 : ℚ) ^ (-places : Int) ≤ n / d ↔ d ≤ 10 ^ places * n := by
  have hpower : (0 : ℚ) < 10 ^ places := pow_pos (by norm_num) places
  rw [le_div_iff₀ (Nat.cast_pos.2 hd), zpow_neg, zpow_natCast, inv_mul_le_iff₀ hpower]
  exact_mod_cast Iff.rfl

/-- The power of ten of the first digit of a ratio. -/
theorem floorLog10_spec {n d : Nat} (hn : 0 < n) (hd : 0 < d) :
    (10 : ℚ) ^ floorLog10 n d ≤ n / d ∧ (n : ℚ) / d < 10 ^ (floorLog10 n d + 1) := by
  unfold floorLog10
  split
  · next hle =>
    have hpos : 0 < n / d := Nat.div_pos hle hd
    obtain ⟨places, hplaces⟩ := Nat.exists_eq_add_one.2 (Text.length_digits_pos (n / d))
    have hlow := Text.pow_length_digits_le hpos
    have hhigh := Text.lt_pow_length_digits (n / d)
    rw [hplaces, Nat.add_sub_cancel, Nat.le_div_iff_mul_le hd] at hlow
    rw [hplaces, Nat.div_lt_iff_lt_mul hd] at hhigh
    rw [hplaces, Nat.cast_succ, add_sub_cancel_right, ← Nat.cast_succ, ten_pow_le_div_iff hd,
      ← not_le, ten_pow_le_div_iff hd, Nat.not_le]
    exact ⟨hlow, hhigh⟩
  · next hlt =>
    have hpos : 0 < d / n := Nat.div_pos (by omega) hn
    obtain ⟨places, hplaces⟩ := Nat.exists_eq_add_one.2 (Text.length_digits_pos (d / n))
    have hlow := Text.pow_length_digits_le hpos
    have hhigh := Text.lt_pow_length_digits (d / n)
    rw [hplaces, Nat.add_sub_cancel, Nat.le_div_iff_mul_le hn] at hlow
    rw [hplaces, Nat.div_lt_iff_lt_mul hn] at hhigh
    simp only [hplaces, Nat.add_sub_cancel, Nat.pow_eq]
    -- a power of ten has one digit more than the greatest number below it
    split
    · next heq =>
      have hnq : (n : ℚ) ≠ 0 := Nat.cast_ne_zero.2 hn.ne'
      have hvalue : (n : ℚ) / d = 10 ^ (-places : Int) := by
        rw [← heq, Nat.cast_mul, Nat.cast_pow, div_mul_cancel_left₀ hnq, zpow_neg, zpow_natCast]
        rfl
      rw [hvalue, ten_zpow_le_iff, ten_zpow_lt_iff]
      omega
    · next hne =>
      have hexponent : -((places + 1 : Nat) : Int) + 1 = -places := by omega
      rw [hexponent, ten_pow_neg_le_div_iff hd, ← not_le, ten_pow_neg_le_div_iff hd, Nat.not_le]
      refine ⟨Nat.le_of_lt hhigh, lt_of_le_of_ne hlow fun heq => hne ?_⟩
      rw [Nat.mul_comm, heq]

/-! ## Values of decimals -/

/-- The value of a decimal. -/
def Digits.value (d : Digits) : ℚ :=
  d.coefficient * 10 ^ d.exponent

/-- How many digits a decimal has. -/
def Digits.count (d : Digits) : Nat :=
  (Text.digits d.coefficient).length

/-- Decimals of one grid are ordered as their coefficients. -/
theorem value_le_value_iff {c c' : Nat} {decimal : Int} :
    Digits.value ⟨c, decimal⟩ ≤ Digits.value ⟨c', decimal⟩ ↔ c ≤ c' := by
  rw [Digits.value, Digits.value, mul_le_mul_iff_left₀ (ten_zpow_pos decimal), Nat.cast_le]

theorem value_lt_value_iff {c c' : Nat} {decimal : Int} :
    Digits.value ⟨c, decimal⟩ < Digits.value ⟨c', decimal⟩ ↔ c < c' := by
  rw [← not_le, value_le_value_iff, Nat.not_le]

theorem value_succ (c : Nat) (decimal : Int) :
    Digits.value ⟨c + 1, decimal⟩ = Digits.value ⟨c, decimal⟩ + 10 ^ decimal := by
  simp only [Digits.value, Nat.cast_add, Nat.cast_one]
  ring

namespace Digits

theorem pow_le_value {d : Digits} (h : 0 < d.coefficient) :
    (10 : ℚ) ^ (d.exponent + d.count - 1) ≤ d.value := by
  obtain ⟨places, hplaces⟩ := Nat.exists_eq_add_one.2 (Text.length_digits_pos d.coefficient)
  have hcoefficient := Text.pow_length_digits_le h
  have hpower : (10 : ℚ) ^ (d.exponent + d.count - 1) = 10 ^ places * 10 ^ d.exponent := by
    rw [← zpow_natCast, ← zpow_add₀ (by norm_num)]
    congr 1
    unfold count
    omega
  rw [hplaces, Nat.add_sub_cancel] at hcoefficient
  rw [hpower]
  exact mul_le_mul_of_nonneg_right (by exact_mod_cast hcoefficient) (ten_zpow_pos _).le

theorem value_pow (places : Nat) (decimal : Int) :
    value ⟨10 ^ places, decimal⟩ = 10 ^ (decimal + places) := by
  rw [value, zpow_add₀ (by norm_num), zpow_natCast, mul_comm]
  push_cast
  rfl

theorem value_lt_pow (d : Digits) : d.value < 10 ^ (d.exponent + d.count) := by
  rw [← value_pow]
  exact value_lt_value_iff.2 (Text.lt_pow_length_digits d.coefficient)

theorem coefficient_pos {d : Digits} (h : 0 < d.value) : 0 < d.coefficient := by
  refine Nat.pos_of_ne_zero fun hzero => ?_
  rw [value, hzero, Nat.cast_zero, zero_mul] at h
  exact lt_irrefl _ h

/-- How many digits a decimal has, by the powers of ten that it lies between. -/
theorem count_eq {d : Digits} {places : Nat} (hpos : 0 < places)
    (hlow : 10 ^ (places - 1) ≤ d.coefficient) (hhigh : d.coefficient < 10 ^ places) :
    d.count = places := by
  have hle : d.count ≤ places := (Text.length_digits_le_iff hpos).2 hhigh
  have hone : 0 < d.count := Text.length_digits_pos d.coefficient
  refine Nat.le_antisymm hle (Nat.le_of_not_lt fun hlt => ?_)
  have hless : 0 < places - 1 := by omega
  have := (Text.length_digits_le_iff hless).1 (show d.count ≤ places - 1 by omega)
  omega

theorem count_one (decimal : Int) : count ⟨1, decimal⟩ = 1 :=
  count_eq Nat.one_pos (Nat.le_refl 1) (by norm_num)

theorem value_one (decimal : Int) : value ⟨1, decimal⟩ = 10 ^ decimal := by
  rw [value, Nat.cast_one, one_mul]

theorem exponent_le_of_value_eq {d d' : Digits} (h : d.coefficient % 10 ≠ 0)
    (hvalue : d.value = d'.value) : d'.exponent ≤ d.exponent := by
  refine Int.not_lt.1 fun hlt => h ?_
  obtain ⟨zeros, hzeros⟩ : ∃ zeros : Nat, d'.exponent = d.exponent + (zeros + 1 : Nat) :=
    ⟨(d'.exponent - d.exponent).toNat - 1, by omega⟩
  have hcoefficient : (d.coefficient : ℚ) = d'.coefficient * 10 ^ zeros * 10 := by
    refine mul_right_cancel₀ (ten_zpow_pos d.exponent).ne' (hvalue.trans ?_)
    rw [value, hzeros, zpow_add₀ (by norm_num), zpow_natCast, pow_succ]
    ring
  have hten : d.coefficient = d'.coefficient * 10 ^ zeros * 10 := by exact_mod_cast hcoefficient
  rw [hten, Nat.mul_mod_left]

/-- A decimal without a zero at the end is determined by its value. -/
theorem eq_of_value_eq {d d' : Digits} (h : d.coefficient % 10 ≠ 0) (h' : d'.coefficient % 10 ≠ 0)
    (hvalue : d.value = d'.value) : d = d' := by
  obtain ⟨c, decimal⟩ := d
  obtain ⟨c', decimal'⟩ := d'
  have hexponent : decimal = decimal' :=
    le_antisymm (exponent_le_of_value_eq h' hvalue.symm) (exponent_le_of_value_eq h hvalue)
  subst hexponent
  have hcoefficient : c = c' :=
    Nat.le_antisymm (value_le_value_iff.1 hvalue.le) (value_le_value_iff.1 hvalue.ge)
  rw [hcoefficient]

end Digits

end Shortest
end SqlDialect
