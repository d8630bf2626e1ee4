import SqlDialect.Proofs.Catalog.Rows

/-!
# Rows that name no table

A row is refused for one of its two columns, and a list of rows for the first row that is refused;
what stands after that row is never looked at. Main statement: an additional fetch has one table
for each row, in order, or it fails as its query does or as the first refused row does.
-/

namespace SqlDialect

/-- The failure of a row without a text in a column. -/
def FetchError.missingText (column : String) : FetchError :=
  ⟨.invalidResponse, "missing string column '" ++ column ++ "' in catalog row"⟩

namespace Row

variable {row : Row} {rows : List Row} {column : String} {e : FetchError}

/-- Whether a row holds a text in a column, and not nothing or another kind of value. -/
def HasText (row : Row) (column : String) : Prop :=
  ∃ text, row.get? column = some (.string text)

/-- Whether a row holds a text in both of its columns. -/
def IsComplete (row : Row) : Prop :=
  row.HasText "schema" ∧ row.HasText "name"

/-- The column for which a row is refused. -/
inductive Lacks (row : Row) : String → Prop
  | schema (h : ¬ row.HasText "schema") : Lacks row "schema"
  /-- The name counts only when the schema is there. -/
  | name (hschema : row.HasText "schema") (hname : ¬ row.HasText "name") : Lacks row "name"

/-- The column for which the first refused row is refused; the rows after it may be of any kind. -/
def FirstLacks (rows : List Row) (column : String) : Prop :=
  ∃ before row after, rows = before ++ row :: after ∧
    (∀ earlier ∈ before, earlier.IsComplete) ∧ row.Lacks column

theorem exists_names_iff : (∃ table, row.Names table) ↔ row.IsComplete := by
  constructor
  · rintro ⟨table, hschema, hname⟩
    exact ⟨⟨_, hschema⟩, ⟨_, hname⟩⟩
  · rintro ⟨⟨schema, hschema⟩, ⟨name, hname⟩⟩
    exact ⟨⟨schema, name⟩, hschema, hname⟩

theorem requiredText_eq_error_iff :
    row.requiredText column = .error e ↔ ¬ row.HasText column ∧ e = .missingText column := by
  by_cases h : row.HasText column
  · obtain ⟨text, htext⟩ := h
    rw [requiredText_eq_ok_iff.2 htext]
    have hhas : row.HasText column := ⟨text, htext⟩
    simp [hhas]
  · have hnone : row.text? column = none := by
      rw [Option.eq_none_iff_forall_ne_some]
      intro text htext
      exact h ⟨text, text?_eq_some_iff.1 htext⟩
    unfold requiredText
    rw [hnone]
    simp only [h, not_false_eq_true, true_and, Except.error.injEq]
    exact eq_comm

theorem table_eq_error_iff :
    row.table = .error e ↔ ∃ column, row.Lacks column ∧ e = .missingText column := by
  unfold Row.table
  simp only [bind_eq_error_iff, requiredText_eq_error_iff, requiredText_eq_ok_iff]
  constructor
  · rintro (⟨hschema, rfl⟩ | ⟨schema, hschema, ⟨hname, rfl⟩ | ⟨name, hname, h⟩⟩)
    · exact ⟨"schema", .schema hschema, rfl⟩
    · exact ⟨"name", .name ⟨schema, hschema⟩ hname, rfl⟩
    · cases h
  · rintro ⟨column, hlacks, rfl⟩
    cases hlacks with
    | schema hschema => exact Or.inl ⟨hschema, rfl⟩
    | name hschema hname =>
      obtain ⟨schema, hschema⟩ := hschema
      exact Or.inr ⟨schema, hschema, Or.inl ⟨hname, rfl⟩⟩

theorem not_firstLacks_nil : ¬ FirstLacks [] column := by
  rintro ⟨before, row, after, h, -⟩
  exact absurd h.symm (by simp)

theorem firstLacks_cons_iff :
    FirstLacks (row :: rows) column ↔ row.Lacks column ∨ row.IsComplete ∧ FirstLacks rows column := by
  constructor
  · rintro ⟨before, refused, after, h, hbefore, hlacks⟩
    cases before with
    | nil =>
      rw [List.nil_append, List.cons.injEq] at h
      rw [h.1]
      exact Or.inl hlacks
    | cons first before =>
      rw [List.cons_append, List.cons.injEq] at h
      obtain ⟨rfl, hrest⟩ := h
      have hearlier : ∀ earlier ∈ before, earlier.IsComplete :=
        fun earlier hmem => hbefore earlier (List.mem_cons_of_mem _ hmem)
      exact Or.inr ⟨hbefore row List.mem_cons_self, before, refused, after, hrest, hearlier, hlacks⟩
  · rintro (hlacks | ⟨hcomplete, before, refused, after, rfl, hbefore, hlacks⟩)
    · exact ⟨[], row, rows, rfl, by simp, hlacks⟩
    · refine ⟨row :: before, refused, after, rfl, fun earlier hmem => ?_, hlacks⟩
      rcases List.mem_cons.1 hmem with rfl | hmem
      · exact hcomplete
      · exact hbefore earlier hmem

/-- Rows have no tables because of the first one that names none. -/
theorem tables_eq_error_iff :
    Row.tables rows = .error e ↔ ∃ column, FirstLacks rows column ∧ e = .missingText column := by
  induction rows with
  | nil => simp [Row.tables, not_firstLacks_nil]
  | cons row rows ih =>
    unfold Row.tables
    simp only [bind_eq_error_iff, table_eq_error_iff, table_eq_ok_iff, firstLacks_cons_iff, ih]
    constructor
    · rintro (⟨column, hlacks, rfl⟩ | ⟨table, htable, ⟨column, hrest, rfl⟩ | ⟨tables, -, h⟩⟩)
      · exact ⟨column, Or.inl hlacks, rfl⟩
      · exact ⟨column, Or.inr ⟨exists_names_iff.1 ⟨table, htable⟩, hrest⟩, rfl⟩
      · cases h
    · rintro ⟨column, hlacks | ⟨hcomplete, hrest⟩, rfl⟩
      · exact Or.inl ⟨column, hlacks, rfl⟩
      · obtain ⟨table, htable⟩ := exists_names_iff.2 hcomplete
        exact Or.inr ⟨table, htable, Or.inl ⟨column, hrest, rfl⟩⟩

theorem exists_tables_iff_isComplete :
    (∃ tables, Row.tables rows = .ok tables) ↔ ∀ row ∈ rows, row.IsComplete := by
  simp only [exists_tables_iff, exists_names_iff]

theorem tables_eq_ok_iff_getElem {tables : List TableName} :
    Row.tables rows = .ok tables ↔ tables.length = rows.length ∧
      ∀ (i : Nat) (hi : i < rows.length) (hi' : i < tables.length), rows[i].Names tables[i] := by
  rw [tables_eq_ok_iff, List.forall₂_iff_get, eq_comm]
  rfl

end Row

namespace CatalogMerger

variable {σ : Type}

theorem run_fetchSupplementary {merger : CatalogMerger} {introspector : Introspector σ}
    {database : DatabaseRef} {s s' : σ} {answer : Except FetchError (List Row)}
    (hquery : (introspector.execute database merger.query).run s = (answer, s')) :
    (merger.fetchSupplementary introspector database).run s = (answer.bind Row.tables, s') := by
  unfold fetchSupplementary
  rw [StateT.run_bind, hquery]
  rfl

/-- The additional tables are those of all rows, one for each and in order, as soon as every row has
its two texts. Otherwise there are none: a failed query fails as it did, and the first row without
one of its texts fails with the column that it lacks. -/
theorem fetchSupplementary_all_or_nothing (merger : CatalogMerger) (introspector : Introspector σ)
    (database : DatabaseRef) (s : σ) :
    (∀ e s', (introspector.execute database merger.query).run s = (.error e, s') →
      (merger.fetchSupplementary introspector database).run s = (.error e, s')) ∧
    ∀ rows s', (introspector.execute database merger.query).run s = (.ok rows, s') →
      ∃ result, (merger.fetchSupplementary introspector database).run s = (result, s') ∧
        ((∃ tables, result = .ok tables) ↔ ∀ row ∈ rows, row.IsComplete) ∧
        (∀ tables, result = .ok tables ↔ tables.length = rows.length ∧
          ∀ (i : Nat) (hi : i < rows.length) (hi' : i < tables.length),
            rows[i].Names tables[i]) ∧
        ∀ e, result = .error e ↔
          ∃ column, Row.FirstLacks rows column ∧ e = .missingText column := by
  constructor
  · intro e s' hquery
    exact run_fetchSupplementary hquery
  · intro rows s' hquery
    exact ⟨Row.tables rows, run_fetchSupplementary hquery, Row.exists_tables_iff_isComplete,
      fun _ => Row.tables_eq_ok_iff_getElem, fun _ => Row.tables_eq_error_iff⟩

/-- A row with a number for its name decides the failure, though the next row has no schema. -/
theorem fetchSupplementary_all_or_nothing_at_number :
    ∃ (merger : CatalogMerger) (introspector : Introspector Nat) (database : DatabaseRef),
      (merger.fetchSupplementary introspector database).run 0 =
        (.error ⟨.invalidResponse, "missing string column 'name' in catalog row"⟩, 1) := by
  let view : Row := ⟨.ofList [("schema", .string "s"), ("name", .string "v")]⟩
  let numbered : Row := ⟨.ofList [("schema", .string "s"), ("name", .int 7)]⟩
  let homeless : Row := ⟨.ofList [("name", .string "w")]⟩
  let merger : CatalogMerger := ⟨"views", "q", true⟩
  let introspector : Introspector Nat :=
    ⟨fun _ _ => return .ok (.ofList []),
      fun _ _ queries => (.ok [view, numbered, homeless], queries + 1)⟩
  let database : DatabaseRef := ⟨"d", .empty⟩
  obtain ⟨-, hrows⟩ := fetchSupplementary_all_or_nothing merger introspector database 0
  obtain ⟨result, hrun, -, -, herror⟩ := hrows [view, numbered, homeless] 1 rfl
  have hcomplete : view.IsComplete := ⟨⟨"s", rfl⟩, ⟨"v", rfl⟩⟩
  have hlacks : numbered.Lacks "name" := by
    refine .name ⟨"s", rfl⟩ ?_
    rintro ⟨text, htext⟩
    cases htext
  have hfirst : Row.FirstLacks [view, numbered, homeless] "name" := by
    refine ⟨[view], numbered, [homeless], rfl, ?_, hlacks⟩
    intro earlier hmem
    rw [List.mem_singleton.1 hmem]
    exact hcomplete
  refine ⟨merger, introspector, database, ?_⟩
  rw [hrun, (herror _).2 ⟨"name", hfirst, rfl⟩]
  rfl

end CatalogMerger
end SqlDialect
