import SqlDialect.Proofs.Engine.Truncation

/-!
# Weeks from Sunday on

The start of the week, the day of the week and the week of the year are three expressions of their
own. They tell of the same weeks: those that start on a Sunday.
-/

namespace SqlDialect
namespace Engine

/-- The week of a timestamp starts on the last Sunday up to its date, its day of the week is counted
from this Sunday on, and timestamps of one year have the same week of the year exactly when their
weeks start together. -/
theorem weeks_start_on_sunday {env : Environment} {e : Expr} {t : Timestamp}
    (h : eval env e = some (.timestamp t)) :
    ∃ (sunday : Date) (passed : Nat),
      t.date.IsLatestSunday sunday ∧ passed < 7 ∧ sunday.plusDays passed = t.date ∧
      eval env (e.truncate .week) = some (.timestamp (.midnight sunday)) ∧
      eval env (e.truncate .dayOfWeek) = some (.integer (1 + passed)) ∧
      ∀ (env' : Environment) (e' : Expr) (t' : Timestamp),
        eval env' e' = some (.timestamp t') → t.date.year = t'.date.year →
        ∃ n n' : Int, eval env (e.truncate .weekOfYear) = some (.integer n) ∧
          eval env' (e'.truncate .weekOfYear) = some (.integer n') ∧
          (n = n' ↔ eval env (e.truncate .week) = eval env' (e'.truncate .week)) := by
  refine ⟨t.date.startOfWeek, t.date.daysFromSunday, t.date.isLatestSunday_startOfWeek,
    t.date.daysFromSunday_lt, t.date.startOfWeek_plusDays, eval_truncate .week h, ?_, ?_⟩
  · rw [Int.add_comm]
    exact eval_truncate .dayOfWeek h
  · intro env' e' t' h' hyear
    refine ⟨_, _, eval_truncate .weekOfYear h, eval_truncate .weekOfYear h', ?_⟩
    rw [Date.weekOfYear_eq_iff hyear, eval_truncate .week h, eval_truncate .week h']
    constructor
    · intro heq
      simp only [Granularity.value, heq]
    · intro heq
      simpa [Granularity.value, Timestamp.midnight] using heq

/-- Friday, the 15th of March 2024, and the Sunday after it. -/
theorem weeks_start_on_sunday_in_march :
    ∃ (env : Environment) (friday next : Timestamp) (sunday : Date),
      eval env (.identifier ["events", "occurred_at"]) = some (.timestamp friday) ∧
      eval env .now = some (.timestamp next) ∧ friday.date.IsLatestSunday sunday ∧
      eval env ((Expr.identifier ["events", "occurred_at"]).truncate .week) =
        some (.timestamp (.midnight sunday)) ∧
      eval env ((Expr.identifier ["events", "occurred_at"]).truncate .weekOfYear) ≠
        eval env (Expr.now.truncate .weekOfYear) := by
  let friday : Timestamp := ⟨⟨2024, 3, 15, by decide⟩, 56730, 0, by decide⟩
  let next : Timestamp := ⟨⟨2024, 3, 17, by decide⟩, 28800, 0, by decide⟩
  let env : Environment := ⟨.ofList [("events.occurred_at", .timestamp friday)], next⟩
  have hfriday : eval env (.identifier ["events", "occurred_at"]) = some (.timestamp friday) := by
    decide +kernel
  have hnext : eval env .now = some (.timestamp next) := rfl
  obtain ⟨sunday, passed, hsunday, -, -, hweek, -, hall⟩ := weeks_start_on_sunday hfriday
  obtain ⟨n, n', hn, hn', hiff⟩ := hall env .now next hnext rfl
  refine ⟨env, friday, next, sunday, hfriday, hnext, hsunday, hweek, fun heq => ?_⟩
  have hsame : n = n' := by
    rw [hn, hn'] at heq
    cases heq
    rfl
  have hstart := hiff.1 hsame
  rw [eval_truncate .week hfriday, eval_truncate .week hnext] at hstart
  revert hstart
  decide

end Engine
end SqlDialect
