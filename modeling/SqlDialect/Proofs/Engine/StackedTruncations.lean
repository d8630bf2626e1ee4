import Mathlib.Data.List.Chain
import SqlDialect.Proofs.Engine.Floors

/-!
# Stacked truncations

A truncation of a truncation. Months are made of whole hours and quarters of whole months, but weeks
lie across the bounds of both. Main statement: going up from finer to coarser granularities, only
the last one counts.
-/

namespace SqlDialect

/-- Whether a truncation is another one or a coarser one. -/
inductive Granularity.Refines : Granularity → Granularity → Prop where
  | refl {g : Granularity} (h : g ∈ truncations) : Refines g g
  | minute_hour : Refines .minute .hour
  | hour_week : Refines .hour .week
  | hour_month : Refines .hour .month
  | month_quarter : Refines .month .quarter
  | trans {f g h : Granularity} (hfg : Refines f g) (hgh : Refines g h) : Refines f h

/-- An expression truncated again and again, first at the first granularity of the list. -/
def Expr.truncateAll (e : Expr) (gs : List Granularity) : Expr :=
  gs.foldl (fun e g => e.truncate g) e

theorem Timestamp.IsMidnightOf.isMultipleOf {P : Date → Prop} {t : Timestamp}
    (h : t.IsMidnightOf P) (seconds : Nat) : t.IsMultipleOf seconds := by
  obtain ⟨-, ht⟩ := h
  rw [ht]
  exact ⟨Nat.zero_mod seconds, rfl⟩

/-- What starts a unit of the coarser granularity starts one of the finer granularity too. -/
theorem Granularity.Refines.isStart {f g : Granularity} (h : f.Refines g) {t : Timestamp}
    (ht : g.IsStart t) : f.IsStart t := by
  induction h with
  | refl => exact ht
  | minute_hour =>
    obtain ⟨hsecond, hnano⟩ := ht
    exact ⟨by omega, hnano⟩
  | hour_week => exact Timestamp.IsMidnightOf.isMultipleOf ht 3600
  | hour_month => exact Timestamp.IsMidnightOf.isMultipleOf ht 3600
  | month_quarter =>
    obtain ⟨hquarter, hmidnight⟩ := ht
    exact ⟨hquarter.startsMonth, hmidnight⟩
  | trans _ _ ihfg ihgh => exact ihfg (ihgh ht)

/-- Taking the last moment of a wider kind first makes no difference. -/
theorem Timestamp.isGreatest_trans {P Q : Timestamp → Prop} (hQP : ∀ r, Q r → P r)
    {t s u : Timestamp} (hs : IsGreatest {r | P r ∧ r ≤ t} s)
    (hu : IsGreatest {r | Q r ∧ r ≤ s} u) : IsGreatest {r | Q r ∧ r ≤ t} u := by
  refine ⟨⟨hu.1.1, hu.1.2.trans hs.1.2⟩, ?_⟩
  rintro r ⟨hr, hrt⟩
  have hrs : r ≤ s := hs.2 ⟨hQP r hr, hrt⟩
  exact hu.2 ⟨hr, hrs⟩

namespace Engine

open Granularity (truncations Refines)

variable {env : Environment} {e : Expr} {t : Timestamp}

theorem eval_truncation {g : Granularity} (hg : g ∈ truncations)
    (h : eval env e = some (.timestamp t)) :
    ∃ start, eval env (e.truncate g) = some (.timestamp start) ∧
      IsGreatest {s | g.IsStart s ∧ s ≤ t} start := by
  obtain ⟨start, hvalue, hstart⟩ := Granularity.exists_isGreatest_value hg t
  rw [eval_truncate g h, hvalue]
  exact ⟨start, rfl, hstart⟩

/-- Going up a chain ends in the last start of a unit of its last granularity. -/
theorem eval_truncateAll {g : Granularity} {gs : List Granularity}
    (hchain : (g :: gs).IsChain Refines) (hall : ∀ f ∈ g :: gs, f ∈ truncations)
    (h : eval env e = some (.timestamp t)) :
    g.Refines ((g :: gs).getLast (List.cons_ne_nil g gs)) ∧
      ∃ start, eval env (e.truncateAll (g :: gs)) = some (.timestamp start) ∧
        IsGreatest {s | ((g :: gs).getLast (List.cons_ne_nil g gs)).IsStart s ∧ s ≤ t} start := by
  have hg : g ∈ truncations := hall g List.mem_cons_self
  obtain ⟨first, heval, hfirst⟩ := eval_truncation hg h
  induction gs generalizing g e t first with
  | nil => exact ⟨.refl hg, first, heval, hfirst⟩
  | cons g' gs ih =>
    obtain ⟨hstep, htail⟩ := List.isChain_cons_cons.1 hchain
    have hall' : ∀ f ∈ g' :: gs, f ∈ truncations := fun f hf => hall f (List.mem_cons_of_mem g hf)
    have hg' : g' ∈ truncations := hall' g' List.mem_cons_self
    obtain ⟨second, heval', hsecond⟩ := eval_truncation hg' heval
    -- the rest of the chain starts from the value at its first granularity
    obtain ⟨hrefines, start, hstart, hgreatest⟩ := ih htail hall' heval hg' second heval' hsecond
    rw [List.getLast_cons (List.cons_ne_nil g' gs)]
    have hlast := hstep.trans hrefines
    exact ⟨hlast, start, hstart,
      Timestamp.isGreatest_trans (fun _ hr => hlast.isStart hr) hfirst hgreatest⟩

/-- Truncations from finer to coarser ones are the last of them, and each of them is a floor: it
does not lead past its operand and keeps the order of operands. -/
theorem stacked_truncations_absorb (h : eval env e = some (.timestamp t)) :
    (∀ (gs : List Granularity) (hne : gs ≠ []), gs.IsChain Refines → (∀ g ∈ gs, g ∈ truncations) →
      ∃ start, eval env (e.truncateAll gs) = some (.timestamp start) ∧
        eval env (e.truncate (gs.getLast hne)) = some (.timestamp start)) ∧
    ∀ g ∈ truncations, ∃ start, eval env (e.truncate g) = some (.timestamp start) ∧ start ≤ t ∧
      ∀ (env' : Environment) (e' : Expr) (t' : Timestamp),
        eval env' e' = some (.timestamp t') → t ≤ t' →
        ∃ start', eval env' (e'.truncate g) = some (.timestamp start') ∧ start ≤ start' := by
  constructor
  · intro gs hne hchain hall
    obtain ⟨g, gs, rfl⟩ := List.exists_cons_of_ne_nil hne
    obtain ⟨-, start, hstart, hgreatest⟩ := eval_truncateAll hchain hall h
    have hlast := hall _ (List.getLast_mem hne)
    obtain ⟨single, hsingle, hgreatest'⟩ := eval_truncation hlast h
    have hsame : single = start := hgreatest'.unique hgreatest
    rw [hsame] at hsingle
    exact ⟨start, hstart, hsingle⟩
  · intro g hg
    obtain ⟨start, hstart, hgreatest⟩ := eval_truncation hg h
    refine ⟨start, hstart, hgreatest.1.2, ?_⟩
    intro env' e' t' h' hle
    obtain ⟨start', hstart', hgreatest'⟩ := eval_truncation hg h'
    refine ⟨start', hstart', hgreatest.mono hgreatest' ?_⟩
    rintro s ⟨hs, hst⟩
    exact ⟨hs, hst.trans hle⟩

/-- Half an hour before March 2024, in a leap second. Its week starts on the 25th of February, and
its month not after the month of a day later. -/
theorem stacked_truncations_absorb_before_march :
    ∃ (env : Environment) (t start start' : Timestamp),
      eval env .now = some (.timestamp t) ∧
      eval env (Expr.now.truncateAll [.minute, .hour, .hour, .week]) =
        some (.timestamp ⟨⟨2024, 2, 25, by decide⟩, 0, 0, by decide⟩) ∧
      eval env (Expr.now.truncate .month) = some (.timestamp start) ∧ start ≤ t ∧
      eval env ((Expr.now.plus Expr.oneDay).truncate .month) = some (.timestamp start') ∧
      start ≤ start' := by
  let t : Timestamp := ⟨⟨2024, 2, 29, by decide⟩, 84599, 1500000000, by decide⟩
  let env : Environment := ⟨.empty, t⟩
  have hnow : eval env .now = some (.timestamp t) := rfl
  obtain ⟨hstacked, hfloor⟩ := stacked_truncations_absorb hnow
  have hchain : [Granularity.minute, .hour, .hour, .week].IsChain Refines := by
    simp only [List.isChain_cons_cons, List.isChain_singleton, and_true]
    exact ⟨.minute_hour, .refl (by decide), .hour_week⟩
  obtain ⟨sunday, hsunday, hweek⟩ :=
    hstacked [.minute, .hour, .hour, .week] (List.cons_ne_nil _ _) hchain (by decide)
  have heq := hweek.symm.trans (eval_truncate .week hnow)
  simp only [Granularity.value, Option.some.injEq, Value.timestamp.injEq] at heq
  have hstart : sunday = ⟨⟨2024, 2, 25, by decide⟩, 0, 0, by decide⟩ := by
    rw [heq]
    decide
  rw [hstart] at hsunday
  obtain ⟨start, hmonth, hle, hmono⟩ := hfloor .month (by decide)
  have hlater : t ≤ t.plusSeconds (86400 * 1) := by
    rw [Timestamp.le_iff]
    decide
  obtain ⟨start', hmonth', hle'⟩ := hmono env _ _ (eval_plus_oneDay hnow) hlater
  exact ⟨env, t, start, start', hnow, hsunday, hmonth, hle, hmonth', hle'⟩

end Engine
end SqlDialect
