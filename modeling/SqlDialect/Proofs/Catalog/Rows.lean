import SqlDialect.Catalog.Merger
import SqlDialect.Proofs.Results
import Mathlib.Data.List.Forall2

/-!
# Rows as table names

Which table a row names, stated without the reader of rows. Main statements: a list of rows has
tables exactly when each of its rows names one, and then the tables are those that the rows name, in
the order of the rows.
-/

namespace SqlDialect

namespace Row

/-- Whether a row names a table: both of its columns are there and are texts. -/
def Names (row : Row) (table : TableName) : Prop :=
  row.get? "schema" = some (.string table.schema) ∧ row.get? "name" = some (.string table.name)

theorem text?_eq_some_iff {row : Row} {column text : String} :
    row.text? column = some text ↔ row.get? column = some (.string text) := by
  unfold text?
  constructor
  · intro h
    obtain ⟨value, hvalue, htext⟩ := Option.bind_eq_some_iff.1 h
    cases value with
    | string s =>
      simp only [Json.string?, Option.some.injEq] at htext
      rw [hvalue, htext]
    | _ => simp [Json.string?] at htext
  · intro h
    rw [h]
    rfl

theorem requiredText_eq_ok_iff {row : Row} {column text : String} :
    row.requiredText column = .ok text ↔ row.get? column = some (.string text) := by
  rw [← text?_eq_some_iff]
  unfold requiredText
  split
  · next found hfound => simp [hfound]
  · next hnone => simp [hnone]

theorem table_eq_ok_iff {row : Row} {table : TableName} :
    row.table = .ok table ↔ row.Names table := by
  unfold Row.table Row.Names
  simp only [bind_eq_ok_iff, requiredText_eq_ok_iff]
  constructor
  · rintro ⟨schema, hschema, name, hname, h⟩
    cases h
    exact ⟨hschema, hname⟩
  · rintro ⟨hschema, hname⟩
    exact ⟨_, hschema, _, hname, rfl⟩

/-- The tables of rows are those that the rows name, one for each row and in their order. -/
theorem tables_eq_ok_iff {rows : List Row} {tables : List TableName} :
    Row.tables rows = .ok tables ↔ List.Forall₂ Names rows tables := by
  induction rows generalizing tables with
  | nil =>
    simp only [Row.tables, Except.ok.injEq]
    constructor
    · rintro rfl
      exact .nil
    · rintro ⟨⟩
      rfl
  | cons row rows ih =>
    unfold Row.tables
    simp only [bind_eq_ok_iff, table_eq_ok_iff, ih]
    constructor
    · rintro ⟨first, hfirst, rest, hrest, h⟩
      cases h
      exact .cons hfirst hrest
    · rintro (_ | ⟨hfirst, hrest⟩)
      exact ⟨_, hfirst, _, hrest, rfl⟩

/-- There are tables as soon as every row names one. -/
theorem exists_tables_iff {rows : List Row} :
    (∃ tables, Row.tables rows = .ok tables) ↔ ∀ row ∈ rows, ∃ table, row.Names table := by
  simp only [tables_eq_ok_iff]
  induction rows with
  | nil => exact ⟨fun _ => by simp, fun _ => ⟨[], .nil⟩⟩
  | cons row rows ih =>
    constructor
    · rintro ⟨_, _ | ⟨hfirst, hrest⟩⟩ other hother
      rcases List.mem_cons.1 hother with rfl | hother
      · exact ⟨_, hfirst⟩
      · exact ih.1 ⟨_, hrest⟩ other hother
    · intro h
      obtain ⟨first, hfirst⟩ := h row (by simp)
      obtain ⟨rest, hrest⟩ := ih.2 fun other hother => h other (by simp [hother])
      exact ⟨first :: rest, .cons hfirst hrest⟩

theorem mem_tables {rows : List Row} {tables : List TableName} (h : Row.tables rows = .ok tables)
    (table : TableName) : table ∈ tables ↔ ∃ row ∈ rows, row.Names table := by
  have hall := tables_eq_ok_iff.1 h
  induction hall with
  | nil => simp
  | @cons row first rows rest hfirst hrest ih =>
    have hunique : row.Names table ↔ table = first := by
      constructor
      · intro hnames
        have hok := table_eq_ok_iff.2 hnames
        rw [table_eq_ok_iff.2 hfirst] at hok
        cases hok
        rfl
      · rintro rfl
        exact hfirst
    simp only [List.mem_cons, exists_eq_or_imp, hunique, ih (tables_eq_ok_iff.2 hrest)]

end Row
end SqlDialect
