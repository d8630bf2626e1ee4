import SqlDialect.Temporal

/-!
# Requests behind expressions

The expression that answers a request tells which request it was: the nodes around the operand name
the granularity, and the operand is found inside them. What cannot be told is whether a cast was put
there by `asTimestamp` or was there before. Main statement: two requests have the same expression
exactly when they have the same granularity and the same operand up to such a cast.
-/

namespace SqlDialect
namespace Expr

/-! ## The cast of temporal literals -/

theorem asTimestamp_of_isTemporalLiteral {e : Expr} (h : e.isTemporalLiteral = true) :
    e.asTimestamp = .cast e "TIMESTAMP" :=
  if_pos h

theorem asTimestamp_of_not_isTemporalLiteral {e : Expr} (h : e.isTemporalLiteral = false) :
    e.asTimestamp = e := by
  refine if_neg ?_
  rw [h]
  exact Bool.false_ne_true

/-- A cast is no literal, so no second one is put around it. -/
theorem asTimestamp_cast (e : Expr) (type : String) : (Expr.cast e type).asTimestamp = .cast e type :=
  asTimestamp_of_not_isTemporalLiteral rfl

theorem asTimestamp_asTimestamp (e : Expr) : e.asTimestamp.asTimestamp = e.asTimestamp := by
  cases h : e.isTemporalLiteral with
  | false => rw [asTimestamp_of_not_isTemporalLiteral h, asTimestamp_of_not_isTemporalLiteral h]
  | true => rw [asTimestamp_of_isTemporalLiteral h, asTimestamp_cast]

/-- All granularities but two see an expression through its cast only. -/
theorem truncate_asTimestamp (e : Expr) {g : Granularity} (hdefault : g ≠ .default)
    (hday : g ≠ .day) : e.asTimestamp.truncate g = e.truncate g := by
  cases g with
  | default => exact absurd rfl hdefault
  | day => exact absurd rfl hday
  | _ => simp only [truncate, fieldOf, startOfWeek, asTimestamp_asTimestamp]

/-- Whether an expression is a temporal literal and another one this literal with its cast. -/
def IsCastTo (literal e : Expr) : Prop :=
  ∃ s, isTemporalText s = true ∧ literal = .string s ∧ e = .cast (.string s) "TIMESTAMP"

theorem isCastTo_of_isTemporalLiteral {e : Expr} (h : e.isTemporalLiteral = true) :
    e.IsCastTo (.cast e "TIMESTAMP") := by
  unfold isTemporalLiteral at h
  split at h
  · next s => exact ⟨s, h, rfl, rfl⟩
  · exact absurd h Bool.false_ne_true

theorem IsCastTo.asTimestamp_eq {literal e : Expr} (h : literal.IsCastTo e) :
    literal.asTimestamp = e.asTimestamp := by
  obtain ⟨s, hs, rfl, rfl⟩ := h
  have hliteral : (Expr.string s).isTemporalLiteral = true := hs
  rw [asTimestamp_of_isTemporalLiteral hliteral, asTimestamp_cast]

/-- Different expressions come to the same one only through the cast of a literal. -/
theorem asTimestamp_eq_iff {e e' : Expr} (hne : e ≠ e') :
    e.asTimestamp = e'.asTimestamp ↔ e.IsCastTo e' ∨ e'.IsCastTo e := by
  constructor
  · intro h
    cases hliteral : e.isTemporalLiteral with
    | false =>
      rw [asTimestamp_of_not_isTemporalLiteral hliteral] at h
      cases hliteral' : e'.isTemporalLiteral with
      | false =>
        rw [asTimestamp_of_not_isTemporalLiteral hliteral'] at h
        exact absurd h hne
      | true =>
        rw [asTimestamp_of_isTemporalLiteral hliteral'] at h
        rw [h]
        exact .inr (isCastTo_of_isTemporalLiteral hliteral')
    | true =>
      rw [asTimestamp_of_isTemporalLiteral hliteral] at h
      cases hliteral' : e'.isTemporalLiteral with
      | false =>
        rw [asTimestamp_of_not_isTemporalLiteral hliteral'] at h
        rw [← h]
        exact .inl (isCastTo_of_isTemporalLiteral hliteral)
      | true =>
        rw [asTimestamp_of_isTemporalLiteral hliteral', Expr.cast.injEq] at h
        exact absurd h.1 hne
  · rintro (h | h)
    · exact h.asTimestamp_eq
    · exact h.asTimestamp_eq.symm

/-! ## Requests told from expressions -/

/-- What an expression is compiled around. A date is cast from any operand, so literals have no
cast of their own there. -/
def operandAt (e : Expr) : Granularity → Expr
  | .day => e
  | _ => e.asTimestamp

theorem operandAt_of_ne (e : Expr) {g : Granularity} (h : g ≠ .day) :
    e.operandAt g = e.asTimestamp := by
  cases g with
  | day => exact absurd rfl h
  | _ => rfl

/-- The granularity of a truncation to a unit. -/
def truncation? : String → Option Granularity
  | "minute" => some .minute
  | "hour" => some .hour
  | "month" => some .month
  | "quarter" => some .quarter
  | _ => none

/-- The granularity of the extraction of a field. -/
def extraction? : String → Option Granularity
  | "MINUTE" => some .minuteOfHour
  | "HOUR" => some .hourOfDay
  | "DAY" => some .dayOfMonth
  | "DOY" => some .dayOfYear
  | "MONTH" => some .monthOfYear
  | "QUARTER" => some .quarterOfYear
  | "YEAR" => some .year
  | _ => none

/-- The request that an expression answers: the granularity and what was compiled. -/
def request? : Expr → Option (Granularity × Expr)
  | .call "DATE_TRUNC" [.literal (.string unit), e] => (truncation? unit).map (·, e)
  | .call "WEEK" [e] => some (.weekOfYear, e)
  | .cast e "DATE" => some (.day, e)
  | .cast (.extract field e) "INTEGER" => (extraction? field).map (·, e)
  | .binary (.cast (.extract "DOW" e) "INTEGER") .plus _ => some (.dayOfWeek, e)
  | .binary (.call "DATE_TRUNC" [_, .binary e .plus _]) .minus _ => some (.week, e)
  | _ => none

theorem request?_truncate (e : Expr) {g : Granularity} (h : g ≠ .default) :
    (e.truncate g).request? = some (g, e.operandAt g) := by
  cases g with
  | default => exact absurd rfl h
  | _ => rfl

/-- An expression of a request depends on no more than its granularity and operand, and it
determines both. -/
theorem truncate_eq_iff {g g' : Granularity} (hg : g ≠ .default) (hg' : g' ≠ .default)
    (e e' : Expr) :
    e.truncate g = e'.truncate g' ↔ g = g' ∧ e.operandAt g = e'.operandAt g' := by
  constructor
  · intro h
    have hrequest := congrArg request? h
    rw [request?_truncate e hg, request?_truncate e' hg', Option.some.injEq, Prod.mk.injEq]
      at hrequest
    exact hrequest
  · rintro ⟨rfl, h⟩
    by_cases hday : g = .day
    · subst hday
      exact congrArg (truncate .day) h
    · rw [operandAt_of_ne e hday, operandAt_of_ne e' hday] at h
      rw [← truncate_asTimestamp e hg hday, h, truncate_asTimestamp e' hg hday]

/-- An expression tells the granularity of its request, and the operand up to the cast of a temporal
literal. Only the date of an operand is taken without that cast, so there the operand itself is
told. -/
theorem truncate_tells_request {g g' : Granularity} (hg : g ≠ .default) (hg' : g' ≠ .default)
    (e e' : Expr) :
    (e.truncate g = e'.truncate g' ↔
      g = g' ∧ (e = e' ∨ g ≠ .day ∧ e.asTimestamp = e'.asTimestamp)) ∧
    (e ≠ e' → (e.asTimestamp = e'.asTimestamp ↔ e.IsCastTo e' ∨ e'.IsCastTo e)) := by
  refine ⟨?_, asTimestamp_eq_iff⟩
  rw [truncate_eq_iff hg hg']
  refine and_congr_right fun hsame => ?_
  subst hsame
  constructor
  · intro h
    by_cases hday : g = .day
    · subst hday
      exact .inl h
    · rw [operandAt_of_ne e hday, operandAt_of_ne e' hday] at h
      exact .inr ⟨hday, h⟩
  · rintro (rfl | ⟨hday, h⟩)
    · rfl
    · rw [operandAt_of_ne e hday, operandAt_of_ne e' hday]
      exact h

/-- A date and its cast have one hour and two days; the hour is not the minute. -/
theorem truncate_tells_request_of_literal :
    isTemporalText "2024-02-29" = true ∧
    (Expr.string "2024-02-29").truncate .hour =
      (Expr.cast (.string "2024-02-29") "TIMESTAMP").truncate .hour ∧
    (Expr.string "2024-02-29").truncate .day ≠
      (Expr.cast (.string "2024-02-29") "TIMESTAMP").truncate .day ∧
    (Expr.string "2024-02-29").truncate .hour ≠ (Expr.string "2024-02-29").truncate .minute := by
  have hliteral : isTemporalText "2024-02-29" = true := by decide +kernel
  have hne : Expr.string "2024-02-29" ≠ .cast (.string "2024-02-29") "TIMESTAMP" :=
    fun h => Expr.noConfusion h
  obtain ⟨hhour, hcast⟩ := @truncate_tells_request .hour .hour (by decide) (by decide)
    (.string "2024-02-29") (.cast (.string "2024-02-29") "TIMESTAMP")
  obtain ⟨hday, -⟩ := @truncate_tells_request .day .day (by decide) (by decide)
    (.string "2024-02-29") (.cast (.string "2024-02-29") "TIMESTAMP")
  obtain ⟨hminute, -⟩ := @truncate_tells_request .hour .minute (by decide) (by decide)
    (.string "2024-02-29") (.string "2024-02-29")
  refine ⟨hliteral, ?_, ?_, ?_⟩
  · have hsame := (hcast hne).2 (.inl ⟨_, hliteral, rfl, rfl⟩)
    exact hhour.2 ⟨rfl, .inr ⟨by decide, hsame⟩⟩
  · intro h
    rcases (hday.1 h).2 with heq | ⟨hnot, -⟩
    · exact hne heq
    · exact hnot rfl
  · intro h
    exact absurd (hminute.1 h).1 (by decide)

end Expr
end SqlDialect
