import SqlDialect.Proofs.Number.ExactValue
import SqlDialect.Proofs.Number.NearestDecimals

/-!
# The shortest digits of a binary number

Main statement: the digits that are written for a number are the one decimal that has the fewest
digits of all that round to the number, and is the nearest of those with as few.
-/

namespace SqlDialect.Shortest

variable {mantissa : Nat} {exponent : Int}

/-! ## The search -/

/-- The search ends at the first grid that a point is taken from. -/
theorem search_spec {tie : Tie} {interval : Interval} {binary order : Int} {tries : Nat} :
    ∀ (count : Nat) {places : Nat}, count ≤ places → places < count + tries →
      (Scale.of binary (order + 1 - (places : Int))).nearest? tie interval ≠ none →
      ∃ found c, count ≤ found ∧
        search tie interval binary order count tries = some ⟨c, order + 1 - (found : Int)⟩ ∧
        (Scale.of binary (order + 1 - (found : Int))).nearest? tie interval = some c ∧
        ∀ fewer, count ≤ fewer → fewer < found →
          (Scale.of binary (order + 1 - (fewer : Int))).nearest? tie interval = none := by
  induction tries with
  | zero =>
    intro count places hle hlt
    omega
  | succ tries ih =>
    intro count places hle hlt hsome
    unfold search
    simp only []
    cases hhere : (Scale.of binary (order + 1 - (count : Int))).nearest? tie interval with
    | some c =>
      refine ⟨count, c, Nat.le_refl _, rfl, hhere, fun fewer hfewer hlt => ?_⟩
      omega
    | none =>
      have hother : count ≠ places := by
        rintro rfl
        exact hsome hhere
      obtain ⟨found, c, hfound, hsearch, hnearest, hnone⟩ :=
        ih (count + 1) (by omega) (by omega) hsome
      refine ⟨found, c, by omega, hsearch, hnearest, fun fewer hfewer hlt => ?_⟩
      rcases Nat.eq_or_lt_of_le hfewer with rfl | hmore
      · exact hhere
      · exact hnone fewer hmore hlt

/-- Seventeen digits are always enough: their grid is finer than the numbers themselves. -/
theorem exists_seventeen {order : Int} (hnormal : Binary64.Normal mantissa exponent)
    (horder : (10 : ℚ) ^ order ≤ mantissa * 2 ^ exponent) :
    ∃ c, RoundsTo mantissa exponent (Digits.value ⟨c, order + 1 - (17 : Nat)⟩) := by
  have hexponent : order + 1 - ((17 : Nat) : Int) = order - 16 := by omega
  rw [hexponent]
  have hstep : (0 : ℚ) < 10 ^ (order - 16) := ten_zpow_pos _
  have hpower : (0 : ℚ) < 2 ^ exponent := zpow_pos two_pos exponent
  have hspacing : (10 : ℚ) ^ (order - 16) <
      upperEnd mantissa exponent - lowerEnd mantissa exponent := by
    have hsmall : (10 : ℚ) ^ (order - 16) * 10 ^ 16 ≤ mantissa * 2 ^ exponent := by
      refine le_trans (le_of_eq ?_) horder
      rw [zpow_sub₀ (by norm_num)]
      field_simp
    unfold upperEnd lowerEnd
    split
    · next hleast =>
      rw [hleast.1] at hsmall ⊢
      push_cast at hsmall ⊢
      nlinarith
    · have hmantissa : (mantissa : ℚ) < 2 ^ 53 := by exact_mod_cast hnormal.1
      nlinarith
  have hself := RoundsTo.self mantissa exponent
  let below := ⌊(mantissa * 2 ^ exponent : ℚ) / 10 ^ (order - 16)⌋₊
  have hbelow : Digits.value ⟨below, order - 16⟩ ≤ mantissa * 2 ^ exponent :=
    (le_div_iff₀ hstep).1 (Nat.floor_le (by positivity))
  have habove : mantissa * 2 ^ exponent < Digits.value ⟨below + 1, order - 16⟩ := by
    refine (div_lt_iff₀ hstep).1 ?_
    exact_mod_cast Nat.lt_floor_add_one _
  by_cases hlow : lowerEnd mantissa exponent < Digits.value ⟨below, order - 16⟩
  · exact ⟨below, .of_lt hlow (hbelow.trans_lt (lt_upperEnd mantissa exponent))⟩
  · refine ⟨below + 1, .of_lt ((lowerEnd_lt mantissa exponent).trans habove) ?_⟩
    rw [value_succ]
    linarith

/-! ## The shortest decimal -/

/-- The decimal that is written for a number: it rounds to the number, has no zero at the end, has
the fewest digits of all that round to the number, and beats the others with as few. -/
structure IsShortest (tie : Tie) (mantissa : Nat) (exponent : Int) (d : Digits) : Prop where
  roundsTo : RoundsTo mantissa exponent d.value
  trimmed : d.coefficient % 10 ≠ 0
  shortest : ∀ other : Digits, RoundsTo mantissa exponent other.value → d.count ≤ other.count
  beats : ∀ other : Digits, RoundsTo mantissa exponent other.value → other.count = d.count →
    other.value ≠ d.value → Beats tie mantissa exponent d other

/-- What the search has found: the first grid with a point that rounds to the number, and the
nearest point of this grid. -/
structure Found (tie : Tie) (mantissa : Nat) (exponent order : Int) (places c : Nat) : Prop where
  mantissa_pos : 0 < mantissa
  reached : (10 : ℚ) ^ order ≤ mantissa * 2 ^ exponent
  bounded : mantissa * 2 ^ exponent < (10 : ℚ) ^ (order + 1)
  places_pos : 0 < places
  isNearest : IsNearest tie mantissa exponent (order + 1 - places) c
  coarser : ∀ fewer : Nat, 0 < fewer → fewer < places →
    ∀ c', ¬ RoundsTo mantissa exponent (Digits.value ⟨c', order + 1 - fewer⟩)

theorem exists_found (tie : Tie) (hpos : 0 < mantissa)
    (hnormal : Binary64.Normal mantissa exponent) :
    ∃ order places c, Found tie mantissa exponent order places c ∧
      digits tie mantissa exponent = Digits.stripped 20 ⟨c, order + 1 - (places : Int)⟩ := by
  have hratio := Binary64.ratio_div mantissa exponent
  have hd := Binary64.ratio_snd_pos mantissa exponent
  have hn : 0 < (Binary64.ratio mantissa exponent).1 := by
    refine Nat.pos_of_ne_zero fun hzero => ?_
    have hvalue : (0 : ℚ) < mantissa * 2 ^ exponent :=
      mul_pos (by exact_mod_cast hpos) (zpow_pos two_pos exponent)
    rw [hzero, Nat.cast_zero, zero_div] at hratio
    exact hvalue.ne hratio
  obtain ⟨hreached, hbounded⟩ := floorLog10_spec hn hd
  unfold digits
  simp only []
  rw [hratio] at hreached hbounded
  generalize floorLog10 _ _ = order at *
  have hspec := @nearest?_spec mantissa exponent hpos tie
  have hseventeen : (Scale.of (exponent - 2) (order + 1 - (17 : Nat))).nearest? tie
      (Interval.ofMantissa mantissa exponent) ≠ none := by
    intro hnone
    obtain ⟨c, hc⟩ := exists_seventeen hnormal hreached
    have hno := hspec (order + 1 - (17 : Nat))
    rw [hnone] at hno
    exact hno c hc
  obtain ⟨places, c, hplaces, hsearch, hnearest, hfewer⟩ :=
    search_spec 1 (by decide) (show 17 < 1 + 17 by decide) hseventeen
  refine ⟨order, places, c, ⟨hpos, hreached, hbounded, hplaces, ?_, ?_⟩, ?_⟩
  · have hfound := hspec (order + 1 - places)
    rwa [hnearest] at hfound
  · intro fewer hone hlt
    have hnone := hspec (order + 1 - fewer)
    rwa [hfewer fewer hone hlt] at hnone
  · rw [hsearch]
    rfl

/-- No binary number lies in the middle between nine and ten times a negative power of ten. -/
theorem mul_ten_pow_ne {places : Nat} (h : 0 < places) (n power : Nat) :
    n * 10 ^ places ≠ 19 * 2 ^ power := by
  intro heq
  have hfive : 5 ∣ 19 * 2 ^ power := by
    rw [← heq]
    exact Nat.dvd_mul_left_of_dvd (dvd_pow (by decide) h.ne') n
  have hcoprime : Nat.Coprime 5 (2 ^ power) := Nat.Coprime.pow_right power (by decide)
  exact absurd (hcoprime.dvd_of_dvd_mul_right hfive) (by decide)

/-- A number that a power of ten rounds to is not in the middle between this power and nine tenths
of it. -/
theorem not_between_nine_and_ten {order : Int} (hnormal : Binary64.Normal mantissa exponent)
    (hrounds : RoundsTo mantissa exponent (Digits.value ⟨10, order⟩))
    (hmiddle : 2 * (mantissa * 2 ^ exponent : ℚ) = 19 * 10 ^ order) : False := by
  have hstep : (0 : ℚ) < 10 ^ order := ten_zpow_pos order
  have hpower : (0 : ℚ) < 2 ^ exponent := zpow_pos two_pos exponent
  have hten := hrounds.le_high
  rw [upperEnd, Digits.value] at hten
  push_cast at hten
  -- the last place of the number is not below the power of ten, so its mantissa is small
  have hplace : (10 : ℚ) ^ order ≤ 2 ^ exponent := by linarith
  have hsmall : (mantissa : ℚ) < 10 := by nlinarith
  have hmantissa : mantissa < 10 := by exact_mod_cast hsmall
  obtain ⟨power, hpos, rfl⟩ : ∃ power : Nat, 0 < power ∧ exponent = -(power : Int) := by
    refine ⟨1074, by decide, hnormal.2.2.2.resolve_left fun hlarge => ?_⟩
    have hpow : 10 ≤ Nat.pow 2 52 := by decide
    omega
  have hnegative : order < 0 := by
    rw [← ten_zpow_lt_iff, zpow_zero]
    exact hplace.trans_lt (zpow_lt_one_of_neg₀ one_lt_two (by omega))
  obtain ⟨places, rfl⟩ : ∃ places : Nat, order = -(places : Int) := ⟨order.natAbs, by omega⟩
  have hplaces : 0 < places := by omega
  refine mul_ten_pow_ne hplaces (2 * mantissa) power ?_
  have hpowers : (2 * mantissa : ℚ) * 10 ^ places = 19 * 2 ^ power := by
    rw [zpow_neg, zpow_neg, zpow_natCast, zpow_natCast] at hmiddle
    field_simp at hmiddle
    rw [hmiddle, mul_comm]
  exact_mod_cast hpowers

namespace Found

variable {tie : Tie} {order : Int} {places c : Nat}

theorem pow_le (h : Found tie mantissa exponent order places c) : 10 ^ (places - 1) ≤ c := by
  have hplaces := h.places_pos
  have hlt : Digits.value ⟨10 ^ (places - 1), order + 1 - places⟩ <
      Digits.value ⟨c + 1, order + 1 - places⟩ := by
    rw [Digits.value_pow, show order + 1 - places + (places - 1 : Nat) = order by omega]
    exact h.reached.trans_lt h.isNearest.lt_next
  exact Nat.le_of_lt_succ (value_lt_value_iff.1 hlt)

theorem le_pow (h : Found tie mantissa exponent order places c) : c ≤ 10 ^ places := by
  have hlt : Digits.value ⟨c, order + 1 - places⟩ <
      Digits.value ⟨10 ^ places + 1, order + 1 - places⟩ := by
    rw [value_succ, Digits.value_pow, sub_add_cancel]
    exact h.isNearest.le_above.trans_lt (add_lt_add_left h.bounded _)
  exact Nat.le_of_lt_succ (value_lt_value_iff.1 hlt)

/-- Only ten has a zero at the end: it is found on the coarsest grid, for a number next to a power
of ten. -/
theorem eq_ten (h : Found tie mantissa exponent order places c) (hzero : c % 10 = 0) :
    c = 10 ∧ places = 1 := by
  have hlow := h.pow_le
  have hhigh := h.le_pow
  have hplaces := h.places_pos
  have hone : places = 1 := by
    by_contra hmore
    refine h.coarser (places - 1) (by omega) (by omega) (c / 10) ?_
    have hten : 10 * (c / 10) = c := by omega
    have hvalue : Digits.value ⟨c / 10, order + 1 - (places - 1 : Nat)⟩ =
        Digits.value ⟨c, order + 1 - places⟩ := by
      rw [Digits.value, Digits.value, show order + 1 - ((places - 1 : Nat) : Int) =
        order + 1 - places + 1 by omega, zpow_add_one₀ (by norm_num)]
      nth_rewrite 2 [← hten]
      push_cast
      ring
    rw [hvalue]
    exact h.isNearest.roundsTo
  subst hone
  norm_num at hlow hhigh
  omega

/-- On the grid with as many digits as a given decimal there is the decimal itself, or a point that
is nearer to the number. -/
theorem exists_gridPoint (h : Found tie mantissa exponent order places c) {d : Digits}
    (hd : RoundsTo mantissa exponent d.value) :
    ∃ c, RoundsTo mantissa exponent (Digits.value ⟨c, order + 1 - d.count⟩) ∧
      (Digits.value ⟨c, order + 1 - d.count⟩ = d.value ∨
        distance mantissa exponent ⟨c, order + 1 - d.count⟩ < distance mantissa exponent d) := by
  have hself := RoundsTo.self mantissa exponent
  have hreached := h.reached
  have hbounded := h.bounded
  have hlow := Digits.pow_le_value (Digits.coefficient_pos (hd.pos h.mantissa_pos))
  have hhigh := Digits.value_lt_pow d
  rcases lt_trichotomy d.exponent (order + 1 - d.count) with hsmall | hsame | hlarge
  · -- the decimal is below the greatest power of ten that the number has reached
    have hcount : 0 < d.count := Text.length_digits_pos d.coefficient
    have hpower : Digits.value ⟨10 ^ (d.count - 1), order + 1 - d.count⟩ = 10 ^ order := by
      rw [Digits.value_pow]
      congr 1
      omega
    have hbelow : d.value < 10 ^ order :=
      hhigh.trans_le (ten_zpow_le_iff.2 (by omega))
    refine ⟨10 ^ (d.count - 1), ?_, .inr ?_⟩
    · rw [hpower]
      exact hd.between hself hbelow.le hreached
    · rw [distance_of_le (hpower.trans_le hreached), hpower,
        distance_of_le (hbelow.le.trans hreached)]
      linarith
  · refine ⟨d.coefficient, ?_, .inl ?_⟩
    · rw [← hsame]
      exact hd
    · rw [← hsame]
  · -- the decimal is not below the next power of ten
    have hpower : Digits.value ⟨10 ^ d.count, order + 1 - d.count⟩ = 10 ^ (order + 1) := by
      rw [Digits.value_pow]
      congr 1
      omega
    have habove : 10 ^ (order + 1) ≤ d.value :=
      (ten_zpow_le_iff.2 (by omega)).trans hlow
    refine ⟨10 ^ d.count, ?_, ?_⟩
    · rw [hpower]
      exact hself.between hd hbounded.le habove
    · rw [distance_of_ge (hbounded.le.trans hpower.ge), hpower,
        distance_of_ge (hbounded.le.trans habove)]
      rcases habove.eq_or_lt with heq | hlt
      · exact .inl heq
      · exact .inr (by linarith)

theorem count_le (h : Found tie mantissa exponent order places c) {other : Digits}
    (hother : RoundsTo mantissa exponent other.value) : places ≤ other.count := by
  obtain ⟨c', hrounds, -⟩ := h.exists_gridPoint hother
  exact Nat.le_of_not_lt fun hlt =>
    h.coarser other.count (Text.length_digits_pos _) hlt c' hrounds

theorem beats (h : Found tie mantissa exponent order places c) {other : Digits}
    (hother : RoundsTo mantissa exponent other.value) (hcount : other.count = places)
    (hne : other.value ≠ Digits.value ⟨c, order + 1 - places⟩) :
    Beats tie mantissa exponent ⟨c, order + 1 - places⟩ other := by
  obtain ⟨c', hrounds, hside⟩ := h.exists_gridPoint hother
  rw [hcount] at hrounds hside
  by_cases hsame : c' = c
  · subst hsame
    exact .inl (hside.resolve_left hne.symm)
  · have hbeats := h.isNearest.beats c' hrounds hsame
    rcases hside with heq | hlt
    · exact hbeats.of_value_eq heq
    · exact hbeats.of_lt hlt

/-- A decimal that is as near as the point that was found is a point of the same grid. -/
theorem exists_of_distance_eq (h : Found tie mantissa exponent order places c) {other : Digits}
    (hother : RoundsTo mantissa exponent other.value) (hcount : other.count = places)
    (hequal : distance mantissa exponent ⟨c, order + 1 - places⟩ =
      distance mantissa exponent other) :
    ∃ c', Digits.value ⟨c', order + 1 - places⟩ = other.value := by
  obtain ⟨c', hrounds, hside⟩ := h.exists_gridPoint hother
  rw [hcount] at hrounds hside
  refine ⟨c', hside.resolve_right fun hlt => ?_⟩
  by_cases hsame : c' = c
  · exact absurd (hsame ▸ hlt) hequal.not_lt
  · exact absurd ((h.isNearest.beats c' hrounds hsame).distance_le.trans_lt hlt) hequal.not_lt

/-- When the point that was found is ten, no other decimal with one digit is as near. -/
theorem not_distance_eq_of_ten (hnormal : Binary64.Normal mantissa exponent)
    (h : Found tie mantissa exponent order 1 10) {other : Digits}
    (hother : RoundsTo mantissa exponent other.value) (hcount : other.count = 1)
    (hne : other.value ≠ Digits.value ⟨10, order⟩) :
    distance mantissa exponent ⟨10, order⟩ ≠ distance mantissa exponent other := by
  intro hequal
  have hgrid : order + 1 - ((1 : Nat) : Int) = order := by omega
  have hbeats := h.isNearest.beats
  have hten := h.isNearest.roundsTo
  have hpoint := h.exists_of_distance_eq hother hcount
  rw [hgrid] at hbeats hten hpoint
  obtain ⟨c', hvalue⟩ := hpoint hequal
  have habove : mantissa * 2 ^ exponent < Digits.value ⟨10, order⟩ := by
    have hpower : Digits.value ⟨10, order⟩ = 10 ^ (order + 1) := Digits.value_pow 1 order
    rw [hpower]
    exact h.bounded
  have hbelow : Digits.value ⟨c', order⟩ < mantissa * 2 ^ exponent := by
    refine lt_of_not_ge fun hge => hne ?_
    rw [hvalue] at hge
    rw [distance_of_ge habove.le, distance_of_ge hge] at hequal
    linarith
  have hlt : c' < 10 := value_lt_value_iff.1 (hbelow.trans habove)
  have hsame : Digits.value ⟨10, order⟩ - mantissa * 2 ^ exponent =
      mantissa * 2 ^ exponent - Digits.value ⟨c', order⟩ := by
    rw [hvalue, ← distance_of_ge habove.le, hequal]
    exact distance_of_le (hvalue ▸ hbelow.le)
  -- nine stands between the two, and is not nearer than ten
  have hnine : Digits.value ⟨c', order⟩ ≤ Digits.value ⟨9, order⟩ :=
    value_le_value_iff.2 (Nat.le_of_lt_succ hlt)
  have hnineTen : Digits.value ⟨9, order⟩ < Digits.value ⟨10, order⟩ :=
    value_lt_value_iff.2 (by decide)
  have hnear := (hbeats 9 ((hvalue ▸ hother).between hten hnine hnineTen.le)
    (by decide)).distance_le
  rw [distance_of_ge habove.le] at hnear
  have hmiddle : Digits.value ⟨9, order⟩ ≤ Digits.value ⟨c', order⟩ := by
    rcases le_total (mantissa * 2 ^ exponent : ℚ) (Digits.value ⟨9, order⟩) with hge | hle
    · rw [distance_of_ge hge] at hnear
      linarith
    · rw [distance_of_le hle] at hnear
      linarith
  refine not_between_nine_and_ten hnormal hten ?_
  have hdouble : 2 * (mantissa * 2 ^ exponent : ℚ) =
      Digits.value ⟨9, order⟩ + Digits.value ⟨10, order⟩ := by
    linarith
  rw [hdouble, Digits.value, Digits.value]
  push_cast
  ring

theorem isShortest_of_value_eq (h : Found tie mantissa exponent order places c) {d : Digits}
    (hvalue : d.value = Digits.value ⟨c, order + 1 - places⟩) (hcount : d.count = places)
    (htrimmed : d.coefficient % 10 ≠ 0)
    (hbeats : ∀ other : Digits, RoundsTo mantissa exponent other.value → other.count = places →
      other.value ≠ Digits.value ⟨c, order + 1 - places⟩ → Beats tie mantissa exponent d other) :
    IsShortest tie mantissa exponent d := by
  refine ⟨hvalue ▸ h.isNearest.roundsTo, htrimmed, fun other hother => ?_,
    fun other hother hsame hne => hbeats other hother (hsame.trans hcount) (hvalue ▸ hne)⟩
  rw [hcount]
  exact h.count_le hother

/-- The point that was found is the shortest decimal once a zero at its end is taken off. -/
theorem isShortest (hnormal : Binary64.Normal mantissa exponent)
    (h : Found tie mantissa exponent order places c) :
    IsShortest tie mantissa exponent (Digits.stripped 20 ⟨c, order + 1 - (places : Int)⟩) := by
  by_cases hzero : c % 10 = 0
  · obtain ⟨rfl, rfl⟩ := h.eq_ten hzero
    have hgrid : order + 1 - ((1 : Nat) : Int) = order := by omega
    have hstripped : Digits.stripped 20 ⟨10, order⟩ = ⟨1, order + 1⟩ := by
      simp [Digits.stripped]
    rw [hgrid, hstripped]
    have hvalue : Digits.value ⟨1, order + 1⟩ = Digits.value ⟨10, order⟩ := by
      rw [Digits.value, Digits.value, zpow_add_one₀ (by norm_num)]
      push_cast
      ring
    have hfound : Digits.value ⟨1, order + 1⟩ = Digits.value ⟨10, order + 1 - (1 : Nat)⟩ := by
      rw [hgrid, hvalue]
    refine h.isShortest_of_value_eq hfound (Digits.count_one _) Nat.one_ne_zero
      fun other hother hcount hne => ?_
    -- one is odd, and need not be even because nothing else is as near
    have hbeats := h.beats hother hcount hne
    rw [hgrid] at hbeats hne
    have hequal := h.not_distance_eq_of_ten hnormal hother hcount hne
    refine .inl ?_
    rw [distance_congr hvalue]
    exact lt_of_le_of_ne hbeats.distance_le hequal
  · have hplaces := h.places_pos
    have hstripped : Digits.stripped 20 ⟨c, order + 1 - (places : Int)⟩ =
        ⟨c, order + 1 - (places : Int)⟩ := by
      rw [Digits.stripped, if_neg fun hten => hzero hten.2]
    have hpow : c ≠ 10 ^ places := by
      rintro rfl
      exact hzero (Nat.mod_eq_zero_of_dvd (dvd_pow_self 10 hplaces.ne'))
    rw [hstripped]
    refine h.isShortest_of_value_eq rfl ?_ hzero fun other => h.beats
    exact Digits.count_eq hplaces h.pow_le (lt_of_le_of_ne h.le_pow hpow)

end Found

/-- Every number has a shortest decimal: the one that is written. -/
theorem digits_isShortest (tie : Tie) (hpos : 0 < mantissa)
    (hnormal : Binary64.Normal mantissa exponent) :
    IsShortest tie mantissa exponent (digits tie mantissa exponent) := by
  obtain ⟨order, places, c, hfound, hdigits⟩ := exists_found tie hpos hnormal
  rw [hdigits]
  exact hfound.isShortest hnormal

namespace IsShortest

variable {tie : Tie} {d d' : Digits}

theorem count_eq (h : IsShortest tie mantissa exponent d)
    (h' : IsShortest tie mantissa exponent d') : d.count = d'.count :=
  Nat.le_antisymm (h.shortest d' h'.roundsTo) (h'.shortest d h.roundsTo)

theorem distance_eq (h : IsShortest tie mantissa exponent d)
    (h' : IsShortest tie mantissa exponent d') (hne : d'.value ≠ d.value) :
    distance mantissa exponent d = distance mantissa exponent d' :=
  le_antisymm (h.beats d' h'.roundsTo (h'.count_eq h) hne).distance_le
    (h'.beats d h.roundsTo (h.count_eq h') hne.symm).distance_le

theorem prefers (h : IsShortest tie mantissa exponent d)
    (h' : IsShortest tie mantissa exponent d') (hne : d'.value ≠ d.value) : tie.Prefers d d' := by
  rcases h.beats d' h'.roundsTo (h'.count_eq h) hne with hlt | ⟨-, hprefers⟩
  · exact absurd (h.distance_eq h' hne) hlt.ne
  · exact hprefers

/-- No decimal with as few digits lies between two that are both shortest, because it would be
nearer. -/
theorem not_between (h : IsShortest tie mantissa exponent d)
    (h' : IsShortest tie mantissa exponent d') {other : Digits} (hcount : other.count ≤ d.count)
    (hlow : d.value < other.value) : ¬ other.value < d'.value := by
  intro hhigh
  have hrounds := h.roundsTo.between h'.roundsTo hlow.le hhigh.le
  have hsame : other.count = d.count := Nat.le_antisymm hcount (h.shortest other hrounds)
  have hnear := (h.beats other hrounds hsame hlow.ne').distance_le
  have hequal := h.distance_eq h' (hlow.trans hhigh).ne'
  rcases le_total (mantissa * 2 ^ exponent : ℚ) d.value with hge | hle
  · rw [distance_of_ge hge, distance_of_ge (hge.trans (hlow.trans hhigh).le)] at hequal
    linarith
  · rw [distance_of_le hle] at hequal hnear
    rcases le_total (mantissa * 2 ^ exponent : ℚ) other.value with hge' | hle'
    · rw [distance_of_ge hge'] at hnear
      rw [distance_of_ge (hge'.trans hhigh.le)] at hequal
      linarith
    · rw [distance_of_le hle'] at hnear
      linarith

/-- Of two equally near decimals only one has an even last digit. -/
theorem not_lt_of_toEven (hpos : 0 < mantissa) (h : IsShortest .toEven mantissa exponent d)
    (h' : IsShortest .toEven mantissa exponent d') : ¬ d.value < d'.value := by
  intro hlt
  have hcount := h.count_eq h'
  have heven : d.coefficient % 2 = 0 := h.prefers h' hlt.ne'
  have heven' : d'.coefficient % 2 = 0 := h'.prefers h hlt.ne
  have hcoefficient := Digits.coefficient_pos (h.roundsTo.pos hpos)
  have hcoefficient' := Digits.coefficient_pos (h'.roundsTo.pos hpos)
  rcases lt_trichotomy d.exponent d'.exponent with hless | hsame | hmore
  · -- the least decimal with as many digits as the upper one is a power of ten
    have hpower := Digits.value_one (d'.exponent + d'.count - 1)
    have hone : Digits.count ⟨1, d'.exponent + d'.count - 1⟩ ≤ d.count :=
      (Digits.count_one _).trans_le (Text.length_digits_pos d.coefficient)
    have hlow : d.value < Digits.value ⟨1, d'.exponent + d'.count - 1⟩ := by
      rw [hpower]
      exact (Digits.value_lt_pow d).trans_le (ten_zpow_le_iff.2 (by omega))
    have hhigh : Digits.value ⟨1, d'.exponent + d'.count - 1⟩ = d'.value := by
      refine le_antisymm ?_ (not_lt.1 (h.not_between h' hone hlow))
      rw [hpower]
      exact Digits.pow_le_value hcoefficient'
    have htrimmed : Digits.coefficient ⟨1, d'.exponent + d'.count - 1⟩ % 10 ≠ 0 :=
      Nat.one_ne_zero
    rw [← Digits.eq_of_value_eq htrimmed h'.trimmed hhigh] at heven'
    exact Nat.one_ne_zero heven'
  · -- both stand on one grid, with an odd point between them
    obtain ⟨c, decimal⟩ := d
    obtain ⟨c', decimal'⟩ := d'
    simp only at heven heven' hsame
    subst hsame
    have hless : c < c' := value_lt_value_iff.1 hlt
    have hmore : Digits.count ⟨c + 1, decimal⟩ ≤ Digits.count ⟨c, decimal⟩ := by
      refine (Text.length_digits_le_iff (Text.length_digits_pos c)).2 ?_
      have hbound : c' < 10 ^ (Text.digits c').length := Text.lt_pow_length_digits c'
      rw [← show (Text.digits c).length = (Text.digits c').length from hcount] at hbound
      exact (Nat.succ_le_of_lt hless).trans_lt hbound
    exact h.not_between h' hmore (value_lt_value_iff.2 (Nat.lt_succ_self c))
      (value_lt_value_iff.2 (by omega))
  · have hhigh := Digits.value_lt_pow d'
    have hlow := Digits.pow_le_value hcoefficient
    have hpowers := ten_zpow_lt_iff.1 (hlow.trans_lt (hlt.trans hhigh))
    omega

/-- A number has only one shortest decimal. -/
theorem unique (hpos : 0 < mantissa) (h : IsShortest tie mantissa exponent d)
    (h' : IsShortest tie mantissa exponent d') : d = d' := by
  refine Digits.eq_of_value_eq h.trimmed h'.trimmed (by_contra fun hne => ?_)
  cases tie with
  | toEven =>
    rcases lt_or_gt_of_ne hne with hlt | hgt
    · exact h.not_lt_of_toEven hpos h' hlt
    · exact h'.not_lt_of_toEven hpos h hgt
  | up =>
    have hless : d'.value < d.value := h.prefers h' (Ne.symm hne)
    have hmore : d.value < d'.value := h'.prefers h hne
    exact lt_asymm hless hmore

end IsShortest

/-- The digits that are written are the one shortest decimal. -/
theorem isShortest_iff {tie : Tie} {d : Digits} (hpos : 0 < mantissa)
    (hnormal : Binary64.Normal mantissa exponent) :
    IsShortest tie mantissa exponent d ↔ d = digits tie mantissa exponent := by
  constructor
  · intro h
    exact h.unique hpos (digits_isShortest tie hpos hnormal)
  · rintro rfl
    exact digits_isShortest tie hpos hnormal

/-- The number that one tenth rounds to. -/
example : digits .toEven 7205759403792794 (-56) = ⟨1, -1⟩ := by decide +kernel

end SqlDialect.Shortest
