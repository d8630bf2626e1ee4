import SqlDialect.Proofs.Number.Decimals

/-!
# The nearest point of a grid

Many decimals round to one and the same binary number: those that are nearer to it than to its
neighbours. Of those that are multiples of a given power of ten one is the nearest to the number.
Main statement: this is the one that is taken, and none is taken only if none rounds to the number.
-/

namespace SqlDialect.Shortest

/-! ## Rounding -/

/-- The lower end of the numbers that are nearest to `mantissa · 2 ^ exponent`: halfway to the
neighbour below, which is at half the distance when the mantissa is the least of its exponent. -/
def lowerEnd (mantissa : Nat) (exponent : Int) : ℚ :=
  (mantissa - if mantissa = 2 ^ 52 ∧ -1074 < exponent then 1 / 4 else 1 / 2) * 2 ^ exponent

/-- The upper end of these numbers: halfway to the neighbour above. -/
def upperEnd (mantissa : Nat) (exponent : Int) : ℚ :=
  (mantissa + 1 / 2) * 2 ^ exponent

/-- The numbers that round to `mantissa · 2 ^ exponent`. A number halfway between two binary ones
rounds to the one with the even mantissa. -/
def RoundsTo (mantissa : Nat) (exponent : Int) (q : ℚ) : Prop :=
  if mantissa % 2 = 0 then lowerEnd mantissa exponent ≤ q ∧ q ≤ upperEnd mantissa exponent
  else lowerEnd mantissa exponent < q ∧ q < upperEnd mantissa exponent

variable {mantissa : Nat} {exponent : Int}

theorem lowerEnd_lt (mantissa : Nat) (exponent : Int) :
    lowerEnd mantissa exponent < mantissa * 2 ^ exponent := by
  have hpower : (0 : ℚ) < 2 ^ exponent := zpow_pos two_pos exponent
  unfold lowerEnd
  refine mul_lt_mul_of_pos_right ?_ hpower
  split <;> linarith

theorem lt_upperEnd (mantissa : Nat) (exponent : Int) :
    mantissa * 2 ^ exponent < upperEnd mantissa exponent := by
  have hpower : (0 : ℚ) < 2 ^ exponent := zpow_pos two_pos exponent
  exact mul_lt_mul_of_pos_right (by linarith) hpower

theorem lowerEnd_pos (hpos : 0 < mantissa) : 0 < lowerEnd mantissa exponent := by
  have hpower : (0 : ℚ) < 2 ^ exponent := zpow_pos two_pos exponent
  have hone : (1 : ℚ) ≤ mantissa := by exact_mod_cast hpos
  unfold lowerEnd
  refine mul_pos ?_ hpower
  split <;> linarith

namespace RoundsTo

theorem of_lt {q : ℚ} (hlow : lowerEnd mantissa exponent < q)
    (hhigh : q < upperEnd mantissa exponent) : RoundsTo mantissa exponent q := by
  unfold RoundsTo
  split
  · exact ⟨hlow.le, hhigh.le⟩
  · exact ⟨hlow, hhigh⟩

theorem low_le {q : ℚ} (h : RoundsTo mantissa exponent q) : lowerEnd mantissa exponent ≤ q := by
  unfold RoundsTo at h
  split at h
  · exact h.1
  · exact h.1.le

theorem le_high {q : ℚ} (h : RoundsTo mantissa exponent q) : q ≤ upperEnd mantissa exponent := by
  unfold RoundsTo at h
  split at h
  · exact h.2
  · exact h.2.le

theorem self (mantissa : Nat) (exponent : Int) :
    RoundsTo mantissa exponent (mantissa * 2 ^ exponent) :=
  of_lt (lowerEnd_lt mantissa exponent) (lt_upperEnd mantissa exponent)

theorem pos {q : ℚ} (hpos : 0 < mantissa) (h : RoundsTo mantissa exponent q) : 0 < q :=
  lt_of_lt_of_le (lowerEnd_pos hpos) h.low_le

/-- What lies between two numbers that round to a third rounds to it too. -/
theorem between {p q r : ℚ} (hp : RoundsTo mantissa exponent p) (hr : RoundsTo mantissa exponent r)
    (hpq : p ≤ q) (hqr : q ≤ r) : RoundsTo mantissa exponent q := by
  unfold RoundsTo at hp hr ⊢
  split at hp
  · next heven =>
    rw [if_pos heven] at hr ⊢
    exact ⟨hp.1.trans hpq, hqr.trans hr.2⟩
  · next hodd =>
    rw [if_neg hodd] at hr ⊢
    exact ⟨hp.1.trans_le hpq, hqr.trans_lt hr.2⟩

end RoundsTo

/-! ## Comparing decimals -/

/-- Which of two equally near decimals is written. -/
def Tie.Prefers : Tie → Digits → Digits → Prop
  | .toEven, d, _ => d.coefficient % 2 = 0
  | .up, d, other => other.value < d.value

/-- How far a decimal is from `mantissa · 2 ^ exponent`. -/
def distance (mantissa : Nat) (exponent : Int) (d : Digits) : ℚ :=
  |mantissa * 2 ^ exponent - d.value|

theorem distance_congr {d d' : Digits} (h : d.value = d'.value) :
    distance mantissa exponent d = distance mantissa exponent d' := by
  rw [distance, distance, h]

theorem distance_of_le {d : Digits} (h : d.value ≤ mantissa * 2 ^ exponent) :
    distance mantissa exponent d = mantissa * 2 ^ exponent - d.value :=
  abs_of_nonneg (sub_nonneg.2 h)

theorem distance_of_ge {d : Digits} (h : mantissa * 2 ^ exponent ≤ d.value) :
    distance mantissa exponent d = d.value - mantissa * 2 ^ exponent := by
  rw [distance, abs_sub_comm]
  exact abs_of_nonneg (sub_nonneg.2 h)

/-- Whether a decimal is written rather than another one: it is nearer, or it is the preferred of
two that are equally near. -/
def Beats (tie : Tie) (mantissa : Nat) (exponent : Int) (d other : Digits) : Prop :=
  distance mantissa exponent d < distance mantissa exponent other ∨
    distance mantissa exponent d = distance mantissa exponent other ∧ tie.Prefers d other

namespace Beats

variable {tie : Tie} {d other further : Digits}

theorem distance_le (h : Beats tie mantissa exponent d other) :
    distance mantissa exponent d ≤ distance mantissa exponent other := by
  rcases h with hlt | ⟨heq, -⟩
  · exact hlt.le
  · exact heq.le

theorem of_lt (h : Beats tie mantissa exponent d other)
    (hfurther : distance mantissa exponent other < distance mantissa exponent further) :
    Beats tie mantissa exponent d further :=
  .inl (h.distance_le.trans_lt hfurther)

theorem of_value_eq (h : Beats tie mantissa exponent d other)
    (hvalue : other.value = further.value) : Beats tie mantissa exponent d further := by
  unfold Beats at h ⊢
  rw [← distance_congr hvalue]
  cases tie with
  | toEven => exact h
  | up =>
    rw [Tie.Prefers, hvalue] at h
    exact h

end Beats

/-! ## Neighbours on a grid -/

/-- The point of a grid that is written: it rounds to the number and beats all others that do, and
it is not two steps away. -/
structure IsNearest (tie : Tie) (mantissa : Nat) (exponent decimal : Int) (c : Nat) : Prop where
  roundsTo : RoundsTo mantissa exponent (Digits.value ⟨c, decimal⟩)
  le_above : Digits.value ⟨c, decimal⟩ ≤ mantissa * 2 ^ exponent + 10 ^ decimal
  lt_next : mantissa * 2 ^ exponent < Digits.value ⟨c + 1, decimal⟩
  beats : ∀ c', RoundsTo mantissa exponent (Digits.value ⟨c', decimal⟩) → c' ≠ c →
    Beats tie mantissa exponent ⟨c, decimal⟩ ⟨c', decimal⟩

section Neighbours

variable {tie : Tie} {decimal : Int} {below : Nat}
  (hbelow : Digits.value ⟨below, decimal⟩ ≤ mantissa * 2 ^ exponent)
  (habove : mantissa * 2 ^ exponent < Digits.value ⟨below + 1, decimal⟩)

include hbelow habove

/-- On its side of the number, the neighbour is the nearest point of the grid. -/
theorem exists_neighbour {c : Nat} (h : RoundsTo mantissa exponent (Digits.value ⟨c, decimal⟩)) :
    ∃ other, (other = below ∨ other = below + 1) ∧
      RoundsTo mantissa exponent (Digits.value ⟨other, decimal⟩) ∧
      (c = other ∨
        distance mantissa exponent ⟨other, decimal⟩ < distance mantissa exponent ⟨c, decimal⟩) := by
  rcases Nat.lt_or_ge below c with hc | hc
  · refine ⟨below + 1, .inr rfl,
      (RoundsTo.self _ _).between h habove.le (value_le_value_iff.2 hc), ?_⟩
    rcases Nat.eq_or_lt_of_le hc with heq | hlt
    · exact .inl heq.symm
    · have hvalue : Digits.value ⟨below + 1, decimal⟩ < Digits.value ⟨c, decimal⟩ :=
        value_lt_value_iff.2 hlt
      rw [distance_of_ge habove.le, distance_of_ge (habove.le.trans hvalue.le)]
      exact .inr (by linarith)
  · refine ⟨below, .inl rfl, h.between (RoundsTo.self _ _) (value_le_value_iff.2 hc) hbelow, ?_⟩
    rcases Nat.eq_or_lt_of_le hc with heq | hlt
    · exact .inl heq
    · have hvalue : Digits.value ⟨c, decimal⟩ < Digits.value ⟨below, decimal⟩ :=
        value_lt_value_iff.2 hlt
      rw [distance_of_le hbelow, distance_of_le (hvalue.le.trans hbelow)]
      exact .inr (by linarith)

/-- A neighbour is the nearest point if it beats the other one. -/
theorem isNearest_of_neighbour {c : Nat} (hc : c = below ∨ c = below + 1)
    (h : RoundsTo mantissa exponent (Digits.value ⟨c, decimal⟩))
    (hbeats : ∀ other, other = below ∨ other = below + 1 → other ≠ c →
      RoundsTo mantissa exponent (Digits.value ⟨other, decimal⟩) →
      Beats tie mantissa exponent ⟨c, decimal⟩ ⟨other, decimal⟩) :
    IsNearest tie mantissa exponent decimal c := by
  have hstep : (0 : ℚ) < 10 ^ decimal := ten_zpow_pos decimal
  refine ⟨h, ?_, ?_, fun c' hc' hne => ?_⟩
  · rcases hc with rfl | rfl
    · exact hbelow.trans (by linarith)
    · rw [value_succ]
      linarith
  · rcases hc with rfl | rfl
    · exact habove
    · exact habove.trans (value_lt_value_iff.2 (Nat.lt_succ_self _))
  · obtain ⟨other, hother, hrounds, hside⟩ := exists_neighbour hbelow habove hc'
    by_cases hsame : other = c
    · subst hsame
      exact .inl (hside.resolve_left hne)
    · rcases hside with rfl | hlt
      · exact hbeats c' hother hsame hrounds
      · exact (hbeats other hother hsame hrounds).of_lt hlt

theorem isNearest_below (h : RoundsTo mantissa exponent (Digits.value ⟨below, decimal⟩))
    (hbeats : RoundsTo mantissa exponent (Digits.value ⟨below + 1, decimal⟩) →
      Beats tie mantissa exponent ⟨below, decimal⟩ ⟨below + 1, decimal⟩) :
    IsNearest tie mantissa exponent decimal below := by
  refine isNearest_of_neighbour hbelow habove (.inl rfl) h fun other hother hne hrounds => ?_
  rw [hother.resolve_left hne] at hrounds ⊢
  exact hbeats hrounds

theorem isNearest_above (h : RoundsTo mantissa exponent (Digits.value ⟨below + 1, decimal⟩))
    (hbeats : RoundsTo mantissa exponent (Digits.value ⟨below, decimal⟩) →
      Beats tie mantissa exponent ⟨below + 1, decimal⟩ ⟨below, decimal⟩) :
    IsNearest tie mantissa exponent decimal (below + 1) := by
  refine isNearest_of_neighbour hbelow habove (.inr rfl) h fun other hother hne hrounds => ?_
  rw [hother.resolve_right hne] at hrounds ⊢
  exact hbeats hrounds

end Neighbours

/-! ## Grids in whole numbers -/

/-- Both sides of a comparison are multiplied by one number, so that they are whole. -/
theorem Scale.exists_factor (binary decimal : Int) :
    ∃ factor : ℚ, 0 < factor ∧ ((Scale.of binary decimal).unit : ℚ) = 2 ^ binary * factor ∧
      ((Scale.of binary decimal).step : ℚ) = 10 ^ decimal * factor := by
  refine ⟨2 ^ (-binary).toNat * 10 ^ (-decimal).toNat, by positivity, ?_, ?_⟩
  · show ((Nat.pow 2 binary.toNat * Nat.pow 10 (-decimal).toNat : Nat) : ℚ) = _
    simp only [Nat.pow_eq, Nat.cast_mul, Nat.cast_pow, Nat.cast_ofNat]
    rw [pow_toNat two_ne_zero binary]
    ring
  · show ((Nat.pow 2 (-binary).toNat * Nat.pow 10 decimal.toNat : Nat) : ℚ) = _
    simp only [Nat.pow_eq, Nat.cast_mul, Nat.cast_pow, Nat.cast_ofNat]
    rw [pow_toNat (by norm_num) decimal]
    ring

theorem Scale.step_pos (binary decimal : Int) : 0 < (Scale.of binary decimal).step :=
  Nat.mul_pos (Nat.two_pow_pos _) (Nat.pow_pos (by decide))

/-- Quarters of the last place and points of a grid, measured in the units of their scale. -/
theorem exists_factor (exponent decimal : Int) :
    ∃ factor : ℚ, 0 < factor ∧
      (∀ quarters : Nat, ((quarters * (Scale.of (exponent - 2) decimal).unit : Nat) : ℚ) =
        quarters / 4 * 2 ^ exponent * factor) ∧
      ∀ c : Nat, ((c * (Scale.of (exponent - 2) decimal).step : Nat) : ℚ) =
        Digits.value ⟨c, decimal⟩ * factor := by
  obtain ⟨factor, hfactor, hunit, hstep⟩ := Scale.exists_factor (exponent - 2) decimal
  refine ⟨factor, hfactor, fun quarters => ?_, fun c => ?_⟩
  · rw [Nat.cast_mul, hunit, zpow_sub₀ two_ne_zero]
    norm_num
    ring
  · rw [Nat.cast_mul, hstep, Digits.value, mul_assoc]

theorem cast_low (hpos : 0 < mantissa) :
    ((Interval.ofMantissa mantissa exponent).low : ℚ) / 4 * 2 ^ exponent =
      lowerEnd mantissa exponent := by
  unfold Interval.ofMantissa lowerEnd
  simp only [Nat.pow_eq]
  split
  · rw [Nat.cast_sub (by omega)]
    push_cast
    ring
  · rw [Nat.cast_sub (by omega)]
    push_cast
    ring

theorem cast_high :
    ((Interval.ofMantissa mantissa exponent).high : ℚ) / 4 * 2 ^ exponent =
      upperEnd mantissa exponent := by
  unfold Interval.ofMantissa upperEnd
  push_cast
  ring

theorem contains_iff (hpos : 0 < mantissa) {decimal : Int} {c : Nat} :
    (Scale.of (exponent - 2) decimal).contains (Interval.ofMantissa mantissa exponent) c = true ↔
      RoundsTo mantissa exponent (Digits.value ⟨c, decimal⟩) := by
  obtain ⟨factor, hfactor, hunits, hpoints⟩ := exists_factor exponent decimal
  have hclosed : (Interval.ofMantissa mantissa exponent).closed = decide (mantissa % 2 = 0) := rfl
  unfold Scale.contains RoundsTo
  rw [hclosed]
  by_cases heven : mantissa % 2 = 0
  · rw [if_pos heven, if_pos (decide_eq_true heven), Bool.and_eq_true, decide_eq_true_iff,
      decide_eq_true_iff, ← Nat.cast_le (α := ℚ), ← Nat.cast_le (α := ℚ), hunits, hunits, hpoints,
      cast_low hpos, cast_high, mul_le_mul_iff_left₀ hfactor, mul_le_mul_iff_left₀ hfactor]
  · rw [if_neg heven, if_neg (by simpa using heven), Bool.and_eq_true, decide_eq_true_iff,
      decide_eq_true_iff, ← Nat.cast_lt (α := ℚ), ← Nat.cast_lt (α := ℚ), hunits, hunits, hpoints,
      cast_low hpos, cast_high, mul_lt_mul_iff_left₀ hfactor, mul_lt_mul_iff_left₀ hfactor]

/-- Division by the step gives the neighbour below, and the two remainders compare as the distances
of the two neighbours do. -/
theorem quotient_spec (mantissa : Nat) (exponent decimal : Int) {value step below : Nat}
    (hvalue : (Interval.ofMantissa mantissa exponent).middle *
      (Scale.of (exponent - 2) decimal).unit = value)
    (hstep : (Scale.of (exponent - 2) decimal).step = step) (hbelow : value / step = below) :
    Digits.value ⟨below, decimal⟩ ≤ mantissa * 2 ^ exponent ∧
      mantissa * 2 ^ exponent < Digits.value ⟨below + 1, decimal⟩ ∧
      (value - below * step < (below + 1) * step - value ↔
        distance mantissa exponent ⟨below, decimal⟩ <
          distance mantissa exponent ⟨below + 1, decimal⟩) ∧
      ((below + 1) * step - value < value - below * step ↔
        distance mantissa exponent ⟨below + 1, decimal⟩ <
          distance mantissa exponent ⟨below, decimal⟩) := by
  obtain ⟨factor, hfactor, hunits, hpoints⟩ := exists_factor exponent decimal
  have hmiddle : (value : ℚ) = mantissa * 2 ^ exponent * factor := by
    rw [← hvalue, hunits]
    show ((4 * mantissa : Nat) : ℚ) / 4 * 2 ^ exponent * factor = _
    push_cast
    ring
  have hpos : 0 < step := hstep ▸ Scale.step_pos (exponent - 2) decimal
  rw [hstep] at hpoints
  have hlow : below * step ≤ value := by
    rw [← hbelow]
    exact Nat.div_mul_le_self value step
  have hhigh : value < (below + 1) * step := by
    rw [← hbelow]
    exact Nat.lt_mul_of_div_lt (Nat.lt_succ_self _) hpos
  have hle : Digits.value ⟨below, decimal⟩ ≤ mantissa * 2 ^ exponent := by
    rw [← mul_le_mul_iff_left₀ hfactor, ← hpoints, ← hmiddle]
    exact_mod_cast hlow
  have hlt : mantissa * 2 ^ exponent < Digits.value ⟨below + 1, decimal⟩ := by
    rw [← mul_lt_mul_iff_left₀ hfactor, ← hpoints, ← hmiddle]
    exact_mod_cast hhigh
  have hdown : ((value - below * step : Nat) : ℚ) =
      distance mantissa exponent ⟨below, decimal⟩ * factor := by
    rw [Nat.cast_sub hlow, hpoints, hmiddle, distance_of_le hle, sub_mul]
  have hup : (((below + 1) * step - value : Nat) : ℚ) =
      distance mantissa exponent ⟨below + 1, decimal⟩ * factor := by
    rw [Nat.cast_sub hhigh.le, hpoints, hmiddle, distance_of_ge hlt.le, sub_mul]
  refine ⟨hle, hlt, ?_, ?_⟩
  · rw [← Nat.cast_lt (α := ℚ), hdown, hup, mul_lt_mul_iff_left₀ hfactor]
  · rw [← Nat.cast_lt (α := ℚ), hdown, hup, mul_lt_mul_iff_left₀ hfactor]

/-- The point that is taken from a grid is the nearest one; none is taken if none rounds to the
number. -/
theorem nearest?_spec (hpos : 0 < mantissa) (tie : Tie) (decimal : Int) :
    match (Scale.of (exponent - 2) decimal).nearest? tie
        (Interval.ofMantissa mantissa exponent) with
    | none => ∀ c, ¬ RoundsTo mantissa exponent (Digits.value ⟨c, decimal⟩)
    | some c => IsNearest tie mantissa exponent decimal c := by
  have hcontains : ∀ c, (Scale.of (exponent - 2) decimal).contains
      (Interval.ofMantissa mantissa exponent) c = true ↔
        RoundsTo mantissa exponent (Digits.value ⟨c, decimal⟩) := fun c => contains_iff hpos
  obtain ⟨hbelow, habove, hnearer, hfarther⟩ := quotient_spec mantissa exponent decimal rfl rfl rfl
  unfold Scale.nearest?
  simp only []
  generalize Interval.ofMantissa mantissa exponent = interval at *
  generalize Scale.of (exponent - 2) decimal = scale at *
  generalize interval.middle * scale.unit / scale.step = below at *
  cases hb : scale.contains interval below <;> cases ha : scale.contains interval (below + 1)
  case false.false =>
    intro c hc
    obtain ⟨other, rfl | rfl, hrounds, -⟩ := exists_neighbour hbelow habove hc
    · rw [(hcontains _).2 hrounds] at hb
      exact Bool.noConfusion hb
    · rw [(hcontains _).2 hrounds] at ha
      exact Bool.noConfusion ha
  case true.false =>
    refine isNearest_below hbelow habove ((hcontains _).1 hb) fun hrounds => ?_
    rw [(hcontains _).2 hrounds] at ha
    exact Bool.noConfusion ha
  case false.true =>
    refine isNearest_above hbelow habove ((hcontains _).1 ha) fun hrounds => ?_
    rw [(hcontains _).2 hrounds] at hb
    exact Bool.noConfusion hb
  case true.true =>
    have htakeBelow (h : Beats tie mantissa exponent ⟨below, decimal⟩ ⟨below + 1, decimal⟩) :=
      isNearest_below hbelow habove ((hcontains _).1 hb) fun _ => h
    have htakeAbove (h : Beats tie mantissa exponent ⟨below + 1, decimal⟩ ⟨below, decimal⟩) :=
      isNearest_above hbelow habove ((hcontains _).1 ha) fun _ => h
    simp only [hnearer, hfarther]
    by_cases hlt : distance mantissa exponent ⟨below, decimal⟩ <
        distance mantissa exponent ⟨below + 1, decimal⟩
    · simp only [if_pos hlt]
      exact htakeBelow (.inl hlt)
    · by_cases hgt : distance mantissa exponent ⟨below + 1, decimal⟩ <
          distance mantissa exponent ⟨below, decimal⟩
      · simp only [if_neg hlt, if_pos hgt]
        exact htakeAbove (.inl hgt)
      · have hequal := le_antisymm (not_lt.1 hgt) (not_lt.1 hlt)
        simp only [if_neg hlt, if_neg hgt]
        cases tie with
        | up => exact htakeAbove (.inr ⟨hequal.symm, value_lt_value_iff.2 (Nat.lt_succ_self _)⟩)
        | toEven =>
          by_cases heven : below % 2 = 0
          · simp only [if_pos heven]
            exact htakeBelow (.inr ⟨hequal, heven⟩)
          · have hnext : (below + 1) % 2 = 0 := by omega
            simp only [if_neg heven]
            exact htakeAbove (.inr ⟨hequal.symm, hnext⟩)

end SqlDialect.Shortest
