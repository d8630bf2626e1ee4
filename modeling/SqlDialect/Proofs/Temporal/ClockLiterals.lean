import SqlDialect.Proofs.Calendar.Endings
import SqlDialect.Proofs.Clock.NormalForm
import SqlDialect.Proofs.Engine.TemporalLiterals

/-!
# Clock texts as literals

The date and time in front of the zone of a clock text is also a temporal literal: its layout is one
of those of literals but for the fraction of a second, which may be missing. Main statement: no
request passes such a literal on without a cast.
-/

namespace SqlDialect

open Calendar

namespace Expr

/-! ## Operands without a cast -/

/-- Whether an expression stands in another one without a cast right around it. -/
inductive BareIn (e : Expr) : Expr → Prop
  | here : BareIn e e
  | cast {operand : Expr} {type : String} (hne : operand ≠ e) (h : BareIn e operand) :
      BareIn e (.cast operand type)
  | left {left right : Expr} {op : Operator} (h : BareIn e left) : BareIn e (.binary left op right)
  | right {left right : Expr} {op : Operator} (h : BareIn e right) :
      BareIn e (.binary left op right)
  | argument {function : String} {arguments : List Expr} {argument : Expr}
      (hmem : argument ∈ arguments) (h : BareIn e argument) : BareIn e (.call function arguments)
  | extract {field : String} {operand : Expr} (h : BareIn e operand) :
      BareIn e (.extract field operand)

variable {s : String} {e left right : Expr}

theorem eq_of_bareIn_string {value : String} (h : (Expr.string s).BareIn (.string value)) :
    value = s := by
  cases h
  rfl

theorem not_bareIn_cast_self (s type : String) :
    ¬ (Expr.string s).BareIn (.cast (.string s) type) := by
  intro h
  cases h with
  | cast hne _ => exact hne rfl

theorem not_bareIn_binary {op : Operator} (hleft : ¬ (Expr.string s).BareIn left)
    (hright : ¬ (Expr.string s).BareIn right) :
    ¬ (Expr.string s).BareIn (.binary left op right) := by
  intro h
  cases h with
  | left h => exact hleft h
  | right h => exact hright h

theorem not_bareIn_call {function : String} {arguments : List Expr}
    (h : ∀ argument ∈ arguments, ¬ (Expr.string s).BareIn argument) :
    ¬ (Expr.string s).BareIn (.call function arguments) := by
  intro hbare
  cases hbare with
  | argument hmem hargument => exact h _ hmem hargument

theorem not_bareIn_integer (value : Int) : ¬ (Expr.string s).BareIn (.integer value) := by
  intro h
  cases h

theorem not_bareIn_oneDay : ¬ (Expr.string s).BareIn oneDay := by
  intro h
  cases h

theorem not_bareIn_truncatedTo {unit : String} (hunit : unit ≠ s)
    (h : ¬ (Expr.string s).BareIn e) : ¬ (Expr.string s).BareIn (e.truncatedTo unit) := by
  apply not_bareIn_call
  intro argument hmem
  rcases List.mem_cons.1 hmem with rfl | hmem
  · exact fun hbare => hunit (eq_of_bareIn_string hbare)
  · rw [List.mem_singleton.1 hmem]
    exact h

theorem not_bareIn_fieldOf (field : String) (h : ¬ (Expr.string s).BareIn e.asTimestamp) :
    ¬ (Expr.string s).BareIn (e.fieldOf field) := by
  intro hbare
  cases hbare with
  | cast _ hbare =>
    cases hbare with
    | extract hbare => exact h hbare

theorem not_bareIn_asTimestamp (h : isTemporalText s = true) :
    ¬ (Expr.string s).BareIn (Expr.string s).asTimestamp := by
  have hliteral : (Expr.string s).isTemporalLiteral = true := h
  rw [asTimestamp_of_isTemporalLiteral hliteral]
  exact not_bareIn_cast_self s "TIMESTAMP"

/-- A temporal literal is passed on with a cast at every granularity but one. -/
theorem not_bareIn_truncate (h : isTemporalText s = true) {g : Granularity}
    (hdefault : g ≠ .default) : ¬ (Expr.string s).BareIn ((Expr.string s).truncate g) := by
  have hcast := not_bareIn_asTimestamp h
  have hunit {unit : String} (hunit : isTemporalText unit = false) : unit ≠ s := by
    rintro rfl
    rw [h] at hunit
    exact Bool.noConfusion hunit
  cases g with
  | default => exact absurd rfl hdefault
  | minute | hour | month | quarter =>
    exact not_bareIn_truncatedTo (hunit (by decide +kernel)) hcast
  | minuteOfHour | hourOfDay | dayOfMonth | dayOfYear | monthOfYear | quarterOfYear | year =>
    exact not_bareIn_fieldOf _ hcast
  | day => exact not_bareIn_cast_self s "DATE"
  | dayOfWeek => exact not_bareIn_binary (not_bareIn_fieldOf _ hcast) (not_bareIn_integer 1)
  | week =>
    have hshifted : ¬ (Expr.string s).BareIn (.binary (Expr.string s).asTimestamp .plus oneDay) :=
      not_bareIn_binary hcast not_bareIn_oneDay
    exact not_bareIn_binary (not_bareIn_truncatedTo (hunit (by decide +kernel)) hshifted)
      not_bareIn_oneDay
  | weekOfYear =>
    apply not_bareIn_call
    intro argument hmem
    rw [List.mem_singleton.1 hmem]
    exact hcast

end Expr

/-! ## Stamps of clock texts -/

theorem isTemporalText_of_stamp {cs before zone : List Char}
    (hcut : Text.trim cs = before ++ ' ' :: zone) {t : DateTime}
    (h : read ClockReading.stampLayout before = .ok t) :
    isTemporalText (String.ofList before) = true := by
  have hlayout : ClockReading.stampLayout =
      (dateLayout ++ [.blanks] ++ minuteLayout ++ [.exactly ':']) ++ [.number .second] := rfl
  obtain ⟨front, d, hd, hbefore⟩ := followsDigit_of_read (hlayout ▸ h)
  -- the text starts where the clock text does and ends in a digit, so no blanks are cut off it
  have hhead : ∀ c ∈ before.head?, Text.isBlank c = false := by
    intro c hc
    have htrim : c ∈ (Text.trim cs).head? := by
      rw [hcut, List.head?_append, Option.mem_def.1 hc]
      rfl
    exact Text.isBlank_eq_false_of_mem_head?_trim htrim
  have hlast : ∀ c ∈ before.getLast?, Text.isBlank c = false := by
    intro c hc
    rw [hbefore, List.getLast?_concat] at hc
    cases hc
    exact Text.isBlank_eq_false_of_isDigit hd
  refine isTemporalText_of_read ?_ (Text.trim_eq_self hhead hlast) (read_append_fraction h)
  simp [temporalLayouts, ClockReading.stampLayout]

/-- What stands before the zone of a clock text is a temporal literal: it is cast, and no request
but the one that changes nothing passes it on as it is. -/
theorem clock_stamp_is_cast {text : String} {reading : ClockReading}
    (h : ClockReading.read? text = .ok reading) :
    (∃ stamp zone : String, Text.trim text.toList = stamp.toList ++ ' ' :: zone.toList ∧
      ' ' ∉ zone.toList) ∧
    ∀ stamp zone : String, Text.trim text.toList = stamp.toList ++ ' ' :: zone.toList →
      ' ' ∉ zone.toList →
      (Expr.string stamp).isTemporalLiteral = true ∧
      (Expr.string stamp).asTimestamp = .cast (.string stamp) "TIMESTAMP" ∧
      (Expr.string stamp).truncate .day = .cast (.string stamp) "DATE" ∧
      ∀ g : Granularity, g ≠ .default →
        (g ≠ .day → (Expr.string stamp).truncate g =
          (Expr.cast (.string stamp) "TIMESTAMP").truncate g) ∧
        ¬ (Expr.string stamp).BareIn ((Expr.string stamp).truncate g) := by
  obtain ⟨before, after, hcut, hread, -⟩ := ClockReading.read?_eq_ok_iff.1 h
  constructor
  · obtain ⟨htext, hafter⟩ := Text.cutAtLast?_eq_some_iff.1 hcut
    refine ⟨String.ofList before, String.ofList after, ?_, ?_⟩
    · rw [String.toList_ofList, String.toList_ofList, htext]
    · rw [String.toList_ofList]
      exact hafter
  · intro stamp zone htext hzone
    have hcut' := Text.cutAtLast?_eq_some_iff.2 ⟨htext, hzone⟩
    rw [hcut, Option.some.injEq, Prod.mk.injEq] at hcut'
    have htemporal : isTemporalText stamp = true := by
      have hstamp := isTemporalText_of_stamp htext (hcut'.1 ▸ hread)
      rwa [String.ofList_toList] at hstamp
    have hcast : (Expr.string stamp).asTimestamp = .cast (.string stamp) "TIMESTAMP" :=
      Expr.asTimestamp_of_isTemporalLiteral htemporal
    refine ⟨htemporal, hcast, rfl, fun g hdefault => ⟨fun hday => ?_, ?_⟩⟩
    · rw [← hcast, Expr.truncate_asTimestamp _ hdefault hday]
    · exact Expr.not_bareIn_truncate htemporal hdefault

/-- A leap second in a year with a sign, whose numbers are not padded. -/
theorem clock_stamp_is_cast_in_long_year :
    (Expr.string "+12024-1-5   7:8:60").isTemporalLiteral = true ∧
      ¬ (Expr.string "+12024-1-5   7:8:60").BareIn
        ((Expr.string "+12024-1-5   7:8:60").truncate .week) := by
  let reading : ClockReading :=
    ⟨⟨⟨12024, 1, 5, by decide⟩, ⟨7, 8, 60, by decide⟩⟩, ⟨-330, by decide⟩⟩
  have hread : ClockReading.read? "\t+12024-1-5   7:8:60 -05:30\n" = .ok reading := rfl
  obtain ⟨-, hall⟩ := clock_stamp_is_cast hread
  obtain ⟨hliteral, -, -, htruncate⟩ :=
    hall "+12024-1-5   7:8:60" "-05:30" (by decide +kernel) (by decide +kernel)
  exact ⟨hliteral, (htruncate .week (by decide)).2⟩

end SqlDialect
