import SqlDialect.Proofs.Engine.StackedTruncations
import SqlDialect.Proofs.Temporal.Requests

/-!
# Types of expressions

The types that the engine gives to the expressions of temporal requests. There is no rule that
converts a string, so a literal that is not cast has no place where a timestamp is wanted. The rules
stand in `HasType`; `typeOf?` finds the type, of which there is at most one. Main statement:
truncations one after the other and a last granularity are well typed exactly when they start from a
timestamp or a temporal literal, and the last granularity alone decides the type.
-/

namespace SqlDialect
namespace Engine

/-- A type of values. -/
inductive SqlType where
  | timestamp
  | date
  | integer
  | numeric
  | text
  | interval
deriving DecidableEq

/-- The types of what an expression only names. -/
structure Declarations where
  /-- The types of the columns. -/
  column : List String → Option SqlType
  /-- The types of the SQL texts that are written as they are. -/
  raw : String → Option SqlType

/-- The types of points in time that a cast can lead to. -/
def pointType? : String → Option SqlType
  | "TIMESTAMP" => some .timestamp
  | "DATE" => some .date
  | _ => none

inductive HasType (names : Declarations) : Expr → SqlType → Prop where
  | column {parts : List String} {type : SqlType} (h : names.column parts = some type) :
    HasType names (.identifier parts) type
  | raw {sql : String} {type : SqlType} (h : names.raw sql = some type) :
    HasType names (.raw sql) type
  | text (value : String) : HasType names (.literal (.string value)) .text
  | integer (value : Int) : HasType names (.literal (.integer value)) .integer
  | interval (amount : Int) (unit : String) : HasType names (.interval amount unit) .interval
  | now : HasType names .now .timestamp
  | dateTrunc {unit e : Expr} (hunit : HasType names unit .text) (h : HasType names e .timestamp) :
    HasType names (.call "DATE_TRUNC" [unit, e]) .timestamp
  | week {e : Expr} (h : HasType names e .timestamp) : HasType names (.call "WEEK" [e]) .integer
  | extract (field : String) {e : Expr} (h : HasType names e .timestamp) :
    HasType names (.extract field e) .numeric
  | castNumeric {e : Expr} (h : HasType names e .numeric) :
    HasType names (.cast e "INTEGER") .integer
  | castTimestamp {e : Expr} {name : String} {type : SqlType} (h : HasType names e .timestamp)
      (htype : pointType? name = some type) : HasType names (.cast e name) type
  | castLiteral {e : Expr} {name : String} {type : SqlType} (h : e.isTemporalLiteral = true)
      (htype : pointType? name = some type) : HasType names (.cast e name) type
  | plusInterval {e span : Expr} (h : HasType names e .timestamp)
      (hspan : HasType names span .interval) : HasType names (.binary e .plus span) .timestamp
  | minusInterval {e span : Expr} (h : HasType names e .timestamp)
      (hspan : HasType names span .interval) : HasType names (.binary e .minus span) .timestamp
  | plusInteger {e e' : Expr} (h : HasType names e .integer) (h' : HasType names e' .integer) :
    HasType names (.binary e .plus e') .integer

/-! ## Finding the type -/

def castType? (name : String) : SqlType → Option SqlType
  | .timestamp => pointType? name
  | .numeric => if name = "INTEGER" then some .integer else none
  | _ => none

def operationType? : SqlType → Operator → SqlType → Option SqlType
  | .timestamp, .plus, .interval => some .timestamp
  | .timestamp, .minus, .interval => some .timestamp
  | .integer, .plus, .integer => some .integer
  | _, _, _ => none

def functionType? : String → List SqlType → Option SqlType
  | "DATE_TRUNC", [.text, .timestamp] => some .timestamp
  | "WEEK", [.timestamp] => some .integer
  | _, _ => none

mutual

/-- The type of an expression, if it has one. -/
def typeOf? (names : Declarations) : Expr → Option SqlType
  | .identifier parts => names.column parts
  | .raw sql => names.raw sql
  | .literal (.string _) => some .text
  | .literal (.integer _) => some .integer
  | .literal _ => none
  | .interval _ _ => some .interval
  | .now => some .timestamp
  | .call function arguments => (typesOf? names arguments).bind (functionType? function)
  | .extract _ operand => if typeOf? names operand = some .timestamp then some .numeric else none
  | .cast operand name =>
    if operand.isTemporalLiteral then pointType? name
    else (typeOf? names operand).bind (castType? name)
  | .binary left op right => do
    let left ← typeOf? names left
    let right ← typeOf? names right
    operationType? left op right

/-- The types of expressions, if each of them has one. -/
def typesOf? (names : Declarations) : List Expr → Option (List SqlType)
  | [] => some []
  | e :: es => do
    let type ← typeOf? names e
    let types ← typesOf? names es
    return type :: types

end

variable {names : Declarations} {e : Expr} {type : SqlType}

theorem HasType.isTemporalLiteral_eq_false (h : HasType names e type) (hne : type ≠ .text) :
    e.isTemporalLiteral = false := by
  cases h with
  | text => exact absurd rfl hne
  | _ => rfl

theorem typeOf?_of_hasType (h : HasType names e type) : typeOf? names e = some type := by
  induction h with
  | column h => exact h
  | raw h => exact h
  | text => rfl
  | integer => rfl
  | interval => rfl
  | now => rfl
  | dateTrunc _ _ ihunit ih => simp [typeOf?, typesOf?, ihunit, ih, functionType?]
  | week _ ih => simp [typeOf?, typesOf?, ih, functionType?]
  | extract _ _ ih => simp [typeOf?, ih]
  | castNumeric h ih =>
    have hliteral := h.isTemporalLiteral_eq_false (by decide)
    simp [typeOf?, hliteral, ih, castType?]
  | castTimestamp h htype ih =>
    have hliteral := h.isTemporalLiteral_eq_false (by decide)
    simp [typeOf?, hliteral, ih, castType?, htype]
  | castLiteral h htype => simp [typeOf?, h, htype]
  | plusInterval _ _ ih ihspan => simp [typeOf?, ih, ihspan, operationType?]
  | minusInterval _ _ ih ihspan => simp [typeOf?, ih, ihspan, operationType?]
  | plusInteger _ _ ih ih' => simp [typeOf?, ih, ih', operationType?]

theorem hasType_cast {name : String} {source : SqlType} (h : HasType names e source)
    (hcast : castType? name source = some type) : HasType names (.cast e name) type := by
  unfold castType? at hcast
  split at hcast
  · exact .castTimestamp h hcast
  · split at hcast
    · next hname =>
      subst hname
      cases hcast
      exact .castNumeric h
    · cases hcast
  · cases hcast

theorem hasType_binary {e' : Expr} {op : Operator} {left right : SqlType}
    (h : HasType names e left) (h' : HasType names e' right)
    (hop : operationType? left op right = some type) :
    HasType names (.binary e op e') type := by
  unfold operationType? at hop
  split at hop
  · cases hop
    exact .plusInterval h h'
  · cases hop
    exact .minusInterval h h'
  · cases hop
    exact .plusInteger h h'
  · cases hop

theorem hasType_call {function : String} {es : List Expr} {types : List SqlType}
    (h : List.Forall₂ (HasType names) es types) (hcall : functionType? function types = some type) :
    HasType names (.call function es) type := by
  unfold functionType? at hcall
  split at hcall
  · cases hcall
    obtain _ | ⟨hunit, hrest⟩ := h
    obtain _ | ⟨he, hnone⟩ := hrest
    cases hnone
    exact .dateTrunc hunit he
  · cases hcall
    obtain _ | ⟨he, hnone⟩ := h
    cases hnone
    exact .week he
  · cases hcall

mutual

theorem hasType_of_typeOf? {e : Expr} {type : SqlType} (h : typeOf? names e = some type) :
    HasType names e type := by
  cases e with
  | identifier => exact .column h
  | raw => exact .raw h
  | literal value =>
    cases value with
    | string value =>
      cases h
      exact .text value
    | integer value =>
      cases h
      exact .integer value
    | _ => cases h
  | interval amount unit =>
    cases h
    exact .interval amount unit
  | now =>
    cases h
    exact .now
  | call function arguments =>
    rw [typeOf?, Option.bind_eq_some_iff] at h
    obtain ⟨types, htypes, hcall⟩ := h
    exact hasType_call (forall₂_of_typesOf? htypes) hcall
  | extract field operand =>
    rw [typeOf?] at h
    split at h
    · next hoperand =>
      cases h
      exact .extract field (hasType_of_typeOf? hoperand)
    · cases h
  | cast operand name =>
    rw [typeOf?] at h
    split at h
    · next hliteral => exact .castLiteral hliteral h
    · obtain ⟨source, hsource, hcast⟩ := Option.bind_eq_some_iff.1 h
      exact hasType_cast (hasType_of_typeOf? hsource) hcast
  | binary left op right =>
    rw [typeOf?] at h
    obtain ⟨leftType, hleft, h⟩ := Option.bind_eq_some_iff.1 h
    obtain ⟨rightType, hright, hop⟩ := Option.bind_eq_some_iff.1 h
    exact hasType_binary (hasType_of_typeOf? hleft) (hasType_of_typeOf? hright) hop

theorem forall₂_of_typesOf? {es : List Expr} {types : List SqlType}
    (h : typesOf? names es = some types) : List.Forall₂ (HasType names) es types := by
  cases es with
  | nil =>
    cases h
    exact .nil
  | cons e es =>
    rw [typesOf?] at h
    obtain ⟨type, htype, h⟩ := Option.bind_eq_some_iff.1 h
    obtain ⟨rest, hrest, h⟩ := Option.bind_eq_some_iff.1 h
    cases h
    exact .cons (hasType_of_typeOf? htype) (forall₂_of_typesOf? hrest)

end

theorem typeOf?_eq_some_iff : typeOf? names e = some type ↔ HasType names e type :=
  ⟨hasType_of_typeOf?, typeOf?_of_hasType⟩

/-! ## Types of requests -/

/-- Whether an expression is a timestamp, or a literal that a cast makes one. -/
def IsPointInTime (names : Declarations) (e : Expr) : Prop :=
  HasType names e .timestamp ∨ e.isTemporalLiteral = true

theorem hasType_asTimestamp_iff : HasType names e.asTimestamp .timestamp ↔ IsPointInTime names e := by
  cases hliteral : e.isTemporalLiteral with
  | false =>
    rw [Expr.asTimestamp_of_not_isTemporalLiteral hliteral, IsPointInTime, hliteral]
    simp only [Bool.false_eq_true, or_false]
  | true =>
    rw [Expr.asTimestamp_of_isTemporalLiteral hliteral]
    exact ⟨fun _ => .inr hliteral, fun _ => .castLiteral hliteral rfl⟩

/-- A form whose operand must have one type, and which then has one type itself. -/
theorem hasType_iff_of_typeOf?_eq {form : Expr} {source result : SqlType}
    {f : SqlType → Option SqlType} (hform : typeOf? names form = (typeOf? names e).bind f)
    (hf : ∀ operand, f operand = if operand = source then some result else none) :
    HasType names form type ↔ type = result ∧ HasType names e source := by
  rw [← typeOf?_eq_some_iff, ← typeOf?_eq_some_iff, hform, Option.bind_eq_some_iff]
  constructor
  · rintro ⟨operand, hoperand, h⟩
    rw [hf] at h
    split at h
    · next heq =>
      subst heq
      cases h
      exact ⟨rfl, hoperand⟩
    · cases h
  · rintro ⟨rfl, h⟩
    exact ⟨source, h, by rw [hf, if_pos rfl]⟩

theorem hasType_truncatedTo_iff (unit : String) :
    HasType names (e.truncatedTo unit) type ↔ type = .timestamp ∧ HasType names e .timestamp := by
  apply @hasType_iff_of_typeOf?_eq _ _ _ _ _ _ fun operand =>
    functionType? "DATE_TRUNC" [.text, operand]
  · simp only [Expr.truncatedTo, Expr.string, typeOf?, typesOf?]
    cases typeOf? names e <;> rfl
  · intro operand
    cases operand <;> rfl

theorem hasType_week_iff :
    HasType names (.call "WEEK" [e]) type ↔ type = .integer ∧ HasType names e .timestamp := by
  apply @hasType_iff_of_typeOf?_eq _ _ _ _ _ _ fun operand => functionType? "WEEK" [operand]
  · simp only [typeOf?, typesOf?]
    cases typeOf? names e <;> rfl
  · intro operand
    cases operand <;> rfl

theorem hasType_fieldOf_iff (field : String) :
    HasType names (e.fieldOf field) type ↔ type = .integer ∧ IsPointInTime names e := by
  rw [← hasType_asTimestamp_iff, ← typeOf?_eq_some_iff, ← typeOf?_eq_some_iff]
  simp only [Expr.fieldOf, typeOf?, Expr.isTemporalLiteral]
  by_cases h : typeOf? names e.asTimestamp = some .timestamp
  · simp [h, castType?, eq_comm]
  · simp [h]

theorem hasType_oneDay_iff {op : Operator} (hop : op = .plus ∨ op = .minus) :
    HasType names (.binary e op Expr.oneDay) type ↔
      type = .timestamp ∧ HasType names e .timestamp := by
  apply @hasType_iff_of_typeOf?_eq _ _ _ _ _ _ fun operand => operationType? operand op .interval
  · simp only [Expr.oneDay, typeOf?]
    rfl
  · intro operand
    rcases hop with rfl | rfl <;> cases operand <;> rfl

theorem hasType_plus_integer_iff (n : Int) :
    HasType names (e.plus (.integer n)) type ↔ type = .integer ∧ HasType names e .integer := by
  apply @hasType_iff_of_typeOf?_eq _ _ _ _ _ _ fun operand => operationType? operand .plus .integer
  · simp only [Expr.plus, Expr.integer, typeOf?]
    rfl
  · intro operand
    cases operand <;> rfl

theorem hasType_castDate_iff :
    HasType names (.cast e "DATE") type ↔ type = .date ∧ IsPointInTime names e := by
  rw [IsPointInTime, ← typeOf?_eq_some_iff, ← typeOf?_eq_some_iff]
  simp only [typeOf?]
  cases e.isTemporalLiteral with
  | true => simp [pointType?, eq_comm]
  | false =>
    cases typeOf? names e with
    | none => simp
    | some operand => cases operand <;> simp [castType?, pointType?, eq_comm]

theorem hasType_startOfWeek_iff :
    HasType names e.startOfWeek type ↔ type = .timestamp ∧ IsPointInTime names e := by
  unfold Expr.startOfWeek Expr.minus Expr.plus
  rw [hasType_oneDay_iff (.inr rfl), hasType_truncatedTo_iff, hasType_oneDay_iff (.inl rfl),
    hasType_asTimestamp_iff]
  simp only [true_and]

def resultType : Granularity → SqlType
  | .day => .date
  | .default | .minute | .hour | .week | .month | .quarter => .timestamp
  | .minuteOfHour | .hourOfDay | .dayOfWeek | .dayOfMonth | .dayOfYear | .weekOfYear
  | .monthOfYear | .quarterOfYear | .year => .integer

theorem hasType_truncate_iff {g : Granularity} (hg : g ≠ .default) :
    HasType names (e.truncate g) type ↔ type = resultType g ∧ IsPointInTime names e := by
  cases g with
  | default => exact absurd rfl hg
  | minute | hour | month | quarter =>
    rw [Expr.truncate, hasType_truncatedTo_iff, hasType_asTimestamp_iff]
    rfl
  | minuteOfHour | hourOfDay | dayOfMonth | dayOfYear | monthOfYear | quarterOfYear | year =>
    exact hasType_fieldOf_iff _
  | day => exact hasType_castDate_iff
  | dayOfWeek =>
    rw [Expr.truncate, hasType_plus_integer_iff, hasType_fieldOf_iff]
    simp only [true_and]
    rfl
  | week => exact hasType_startOfWeek_iff
  | weekOfYear =>
    rw [Expr.truncate, hasType_week_iff, hasType_asTimestamp_iff]
    rfl

open Granularity (truncations)

theorem resultType_of_mem_truncations {g : Granularity} (hg : g ∈ truncations) :
    g ≠ .default ∧ resultType g = .timestamp := by
  simp only [truncations, List.mem_cons, List.not_mem_nil, or_false] at hg
  rcases hg with rfl | rfl | rfl | rfl | rfl <;> exact ⟨by decide, rfl⟩

theorem isTemporalLiteral_truncate (e : Expr) {g : Granularity} (hg : g ≠ .default) :
    (e.truncate g).isTemporalLiteral = false := by
  cases g with
  | default => exact absurd rfl hg
  | _ => rfl

theorem isPointInTime_truncate_iff {g : Granularity} (hg : g ∈ truncations) :
    IsPointInTime names (e.truncate g) ↔ IsPointInTime names e := by
  obtain ⟨hdefault, htype⟩ := resultType_of_mem_truncations hg
  have htimestamp := @hasType_truncate_iff names e .timestamp g hdefault
  rw [IsPointInTime, isTemporalLiteral_truncate e hdefault, htimestamp, htype]
  simp only [Bool.false_eq_true, or_false, true_and]

theorem isPointInTime_truncateAll_iff {gs : List Granularity} (hgs : ∀ g ∈ gs, g ∈ truncations) :
    IsPointInTime names (e.truncateAll gs) ↔ IsPointInTime names e := by
  induction gs generalizing e with
  | nil => exact Iff.rfl
  | cons g gs ih =>
    have hrest : ∀ f ∈ gs, f ∈ truncations := fun f hf => hgs f (List.mem_cons_of_mem g hf)
    have hfirst : g ∈ truncations := hgs g List.mem_cons_self
    exact (ih hrest).trans (isPointInTime_truncate_iff hfirst)

theorem resultType_eq_integer_iff (g : Granularity) :
    resultType g = .integer ↔ g.isExtraction = true := by
  cases g <;> decide

theorem resultType_eq_date_iff (g : Granularity) : resultType g = .date ↔ g = .day := by
  cases g <;> decide

theorem resultType_eq_timestamp_iff (g : Granularity) :
    resultType g = .timestamp ↔ g.isExtraction = false ∧ g ≠ .day := by
  cases g <;> decide

/-- What is compiled from a timestamp or from a temporal literal, and nothing else, is well typed,
after any truncations. Its type is a number for an extraction, a date for a day, and a timestamp
otherwise. -/
theorem compiled_well_typed {gs : List Granularity} {g : Granularity}
    (hgs : ∀ f ∈ gs, f ∈ truncations) (hg : g ≠ .default) :
    (HasType names e .timestamp ∨ e.isTemporalLiteral = true ↔
      ∃ type, HasType names ((e.truncateAll gs).truncate g) type) ∧
    ∀ type, HasType names ((e.truncateAll gs).truncate g) type →
      (type = .integer ↔ g.isExtraction = true) ∧ (type = .date ↔ g = .day) ∧
      (type = .timestamp ↔ g.isExtraction = false ∧ g ≠ .day) := by
  have hpoint := @isPointInTime_truncateAll_iff names e gs hgs
  refine ⟨⟨?_, ?_⟩, ?_⟩
  · intro h
    exact ⟨resultType g, (hasType_truncate_iff hg).2 ⟨rfl, hpoint.2 h⟩⟩
  · rintro ⟨type, h⟩
    exact hpoint.1 ((hasType_truncate_iff hg).1 h).2
  · intro type h
    rw [((hasType_truncate_iff hg).1 h).1]
    exact ⟨resultType_eq_integer_iff g, resultType_eq_date_iff g, resultType_eq_timestamp_iff g⟩

/-- The day of the week of the week of a literal is a number. A column of texts has no day, even if
its texts are dates. -/
theorem compiled_well_typed_of_literal :
    HasType ⟨fun _ => some .text, fun _ => none⟩
      (((Expr.string " 2024-03-10T23:59:60").truncateAll [.minute, .week]).truncate .dayOfWeek)
      .integer ∧
    ∀ type, ¬ HasType ⟨fun _ => some .text, fun _ => none⟩
      (((Expr.column "day").truncateAll [.minute, .week]).truncate .day) type := by
  have hgs : ∀ f ∈ [Granularity.minute, .week], f ∈ truncations := by decide
  have hliteral : (Expr.string " 2024-03-10T23:59:60").isTemporalLiteral = true := by
    decide +kernel
  constructor
  · obtain ⟨htyped, htype⟩ :=
      @compiled_well_typed ⟨fun _ => some .text, fun _ => none⟩ _ _ .dayOfWeek hgs (by decide)
    obtain ⟨type, h⟩ := htyped.1 (.inr hliteral)
    rw [(htype type h).1.2 rfl] at h
    exact h
  · intro type h
    obtain ⟨htyped, -⟩ :=
      @compiled_well_typed ⟨fun _ => some .text, fun _ => none⟩ (.column "day") _ .day hgs
        (by decide)
    rcases htyped.2 ⟨type, h⟩ with hcolumn | hcolumn
    · exact absurd (typeOf?_of_hasType hcolumn) (by decide)
    · exact absurd hcolumn (by decide)

end Engine
end SqlDialect
