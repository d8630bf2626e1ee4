import Mathlib.Data.List.TakeWhile
import SqlDialect.Proofs.Calendar.Printed
import SqlDialect.Proofs.Engine.Truncation
import SqlDialect.Proofs.Temporal.Requests

/-!
# Temporal literals in the engine

The engine converts no strings by itself, so a string literal gets its value from the cast that is
put around temporal ones. Main statement: at every granularity, the literal of a printed date or of
a printed date and time has the value of the point in time that it denotes.
-/

namespace SqlDialect

open Calendar

/-- The timestamp of a date and time outside of leap seconds. -/
def Timestamp.ofDateTime (t : DateTime) : Timestamp :=
  ⟨t.date, t.time.secondOfDay, 0, by
    have := t.time.valid
    unfold TimeOfDay.secondOfDay
    omega⟩

/-- The first moment of a day, as a date and a time. -/
def DateTime.midnight (d : Date) : DateTime :=
  ⟨d, ⟨0, 0, 0, by decide⟩⟩

/-- Whether the year of a date is written with four digits and no sign. -/
def Date.HasPlainYear (d : Date) : Prop :=
  0 ≤ d.year ∧ d.year ≤ 9999

/-! ## Reading the texts -/

theorem read_dateLayout {d : Date} (h : d.HasPlainYear) :
    read dateLayout d.chars = .ok (.midnight d) := by
  obtain ⟨hlow, hhigh⟩ := h
  apply @read_of_readItems dateLayout d.chars (.midnight d)
  · show leastYear ≤ d.year ∧ d.year ≤ greatestYear
    unfold leastYear greatestYear
    omega
  · have hitems := readItems_date (show -2147483648 ≤ d.year ∧ d.year < 2147483648 by omega)
      {} [] []
    rw [List.append_nil, List.append_nil] at hitems
    exact hitems

/-- A date does not fit a layout that goes on with something that has to be there. -/
theorem read_date_of_error {d : Date} (h : d.HasPlainYear) (items : List Item) {e : ReadError}
    (hitems : ∀ fields, readItems fields items [] = .error e) :
    read (dateLayout ++ items) d.chars = .error e := by
  obtain ⟨hlow, hhigh⟩ := h
  have hdate := readItems_date (show -2147483648 ≤ d.year ∧ d.year < 2147483648 by omega)
    {} items []
  rw [List.append_nil, hitems] at hdate
  unfold Calendar.read
  rw [hdate]
  rfl

theorem read_dateTimeLayout {t : DateTime} (h : t.date.HasPlainYear) :
    read (dateLayout ++ [.blanks] ++ secondLayout ++ [.fraction]) t.chars = .ok t := by
  obtain ⟨hlow, hhigh⟩ := h
  apply read_of_readItems
  · unfold leastYear greatestYear
    omega
  · have hitems := readItems_dateTime
      (show -2147483648 ≤ t.date.year ∧ t.date.year < 2147483648 by omega) {} [.fraction] []
    rw [List.append_nil] at hitems
    rw [hitems]
    rfl

theorem isTemporalText_of_read {layout : List Item} {cs : List Char} {t : DateTime}
    (hlayout : layout ∈ temporalLayouts) (htrim : Text.trim cs = cs)
    (hread : read layout cs = .ok t) : isTemporalText (String.ofList cs) = true := by
  have hfits : temporalLayouts.any (fun layout => (read layout cs).isOk) = true := by
    refine List.any_eq_true.2 ⟨layout, hlayout, ?_⟩
    rw [hread]
    rfl
  simp only [isTemporalText, readsAsTemporal, String.toList_ofList, htrim, hfits, Bool.true_or]

theorem isTemporalText_date {d : Date} (h : d.HasPlainYear) :
    isTemporalText (String.ofList d.chars) = true :=
  isTemporalText_of_read (by simp [temporalLayouts]) d.trim_chars (read_dateLayout h)

theorem isTemporalText_dateTime {t : DateTime} (h : t.date.HasPlainYear) :
    isTemporalText (String.ofList t.chars) = true :=
  isTemporalText_of_read (by simp [temporalLayouts]) t.trim_chars (read_dateTimeLayout h)

/-- No fraction of a second is read from a text without a point. -/
theorem Timestamp.nanosOf_eq_zero {cs : List Char} (h : '.' ∉ cs) : nanosOf cs = 0 := by
  have hdrop : cs.dropWhile (· ≠ '.') = [] := by
    rw [List.dropWhile_eq_nil_iff]
    intro c hc
    have hne : c ≠ '.' := fun heq => h (heq ▸ hc)
    exact decide_eq_true hne
  unfold nanosOf
  rw [hdrop]

theorem Timestamp.ofDateTime?_zero {t : DateTime} (h : t.time.second ≤ 59) :
    ofDateTime? t 0 = some (ofDateTime t) := by
  have hleap : t.time.isLeapSecond = false := by
    unfold TimeOfDay.isLeapSecond
    exact decide_eq_false (by omega)
  have hvalid := (ofDateTime t).valid
  unfold ofDateTime?
  simp only [hleap, Bool.false_eq_true, if_false]
  exact dif_pos hvalid

/-- A text that is only a date is read by the last of the layouts. -/
theorem Timestamp.ofText?_date {d : Date} (h : d.HasPlainYear) :
    ofText? (String.ofList d.chars) = some (midnight d) := by
  have hblank : read (dateLayout ++ [.blanks] ++ secondLayout ++ [.fraction]) d.chars =
      .error .unexpectedEnd := by
    rw [List.append_assoc, List.append_assoc]
    exact read_date_of_error h _ fun _ => rfl
  have hletter : read (dateLayout ++ [.exactly 'T'] ++ secondLayout ++ [.fraction]) d.chars =
      .error .unexpectedEnd := by
    rw [List.append_assoc, List.append_assoc]
    exact read_date_of_error h _ fun _ => rfl
  have hminute : read (dateLayout ++ [.blanks] ++ minuteLayout) d.chars =
      .error .unexpectedEnd := by
    rw [List.append_assoc]
    exact read_date_of_error h _ fun _ => rfl
  have hpoint : '.' ∉ d.chars := fun hmem =>
    @DateTime.not_mem_chars '.' (by decide) (by decide) (by decide) (by decide)
      (by decide) (.midnight d) (List.mem_append_left _ hmem)
  have hdate : ofDateTime? (.midnight d) 0 = some (midnight d) :=
    ofDateTime?_zero (Nat.zero_le 59)
  unfold ofText? layouts
  simp only [String.toList_ofList, List.findSome?_cons, hblank, hletter, hminute,
    read_dateLayout h, Except.toOption, nanosOf_eq_zero hpoint, Option.bind_eq_bind,
    Option.bind_some, hdate]

theorem Timestamp.ofText?_dateTime {t : DateTime} (h : t.date.HasPlainYear)
    (hsecond : t.time.second ≤ 59) :
    ofText? (String.ofList t.chars) = some (ofDateTime t) := by
  have hpoint : '.' ∉ t.chars := t.not_mem_chars (by decide) (by decide) (by decide) (by decide)
    (by decide)
  unfold ofText? layouts
  simp only [String.toList_ofList, List.findSome?_cons, read_dateTimeLayout h, Except.toOption,
    nanosOf_eq_zero hpoint, Option.bind_eq_bind, Option.bind_some, ofDateTime?_zero hsecond]

/-! ## Values at granularities -/

namespace Engine

/-- The expressions that stand for a point in time: those that have it for their value, and string
literals that are printed dates, or dates and times, with a year of four digits. -/
inductive StandsFor (env : Environment) : Expr → Timestamp → Prop where
  | value {e : Expr} {t : Timestamp} (h : eval env e = some (.timestamp t)) : StandsFor env e t
  | date {d : Date} (h : d.HasPlainYear) :
    StandsFor env (.string (String.ofList d.chars)) (.midnight d)
  | dateTime {t : DateTime} (h : t.date.HasPlainYear) (hsecond : t.time.second ≤ 59) :
    StandsFor env (.string (String.ofList t.chars)) (.ofDateTime t)

variable {env : Environment} {e : Expr} {t : Timestamp}

theorem StandsFor.eval_asTimestamp (h : StandsFor env e t) :
    eval env e.asTimestamp = some (.timestamp t) := by
  cases h with
  | value h =>
    rw [asTimestamp_eq_self h]
    exact h
  | date h =>
    have htemporal : (Expr.string (String.ofList _)).isTemporalLiteral = true :=
      isTemporalText_date h
    rw [Expr.asTimestamp_of_isTemporalLiteral htemporal]
    simp only [Expr.string, eval, Option.bind_some, cast?, Timestamp.ofText?_date h,
      Option.map_some]
  | dateTime h hsecond =>
    have htemporal : (Expr.string (String.ofList _)).isTemporalLiteral = true :=
      isTemporalText_dateTime h
    rw [Expr.asTimestamp_of_isTemporalLiteral htemporal]
    simp only [Expr.string, eval, Option.bind_some, cast?, Timestamp.ofText?_dateTime h hsecond,
      Option.map_some]

theorem StandsFor.eval_date (h : StandsFor env e t) :
    eval env (.cast e "DATE") = some (.date t.date) := by
  cases h with
  | value h => simp only [eval, h, Option.bind_some, cast?]
  | date h =>
    simp only [Expr.string, eval, Option.bind_some, cast?, Timestamp.ofText?_date h,
      Option.map_some]
  | dateTime h hsecond =>
    simp only [Expr.string, eval, Option.bind_some, cast?, Timestamp.ofText?_dateTime h hsecond,
      Option.map_some]

/-- The value of what stands for a point in time is its value at every granularity. -/
theorem StandsFor.eval_truncate (h : StandsFor env e t) {g : Granularity} (hg : g ≠ .default) :
    eval env (e.truncate g) = some (g.value t) := by
  by_cases hday : g = .day
  · rw [hday]
    exact h.eval_date
  · rw [← Expr.truncate_asTimestamp e hg hday]
    exact Engine.eval_truncate g h.eval_asTimestamp

end Engine
end SqlDialect
