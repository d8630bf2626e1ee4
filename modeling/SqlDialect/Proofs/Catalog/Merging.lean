import SqlDialect.Proofs.Catalog.Rows

/-!
# What merging catalogs does

Every way in which a description of a database can come out, with the calls that it makes on the
way. `Outcome` lists them: the tables cannot be had, they are all that is wanted, the query for more
of them fails, one of its rows names no table, or every row names one. Main statements: a
description comes out in exactly one of these ways, and the order and the number of the rows with
the same contents make no difference.
-/

namespace SqlDialect

/-- A call of an operation of an introspector. -/
inductive IntrospectorCall where
  | describe (driver : String) (database : DatabaseRef)
  | execute (database : DatabaseRef) (sql : String)

namespace Introspector

variable {σ : Type}

/-- An introspector that also keeps the calls that are made, the last one at the end. -/
def recorded (introspector : Introspector σ) : Introspector (σ × List IntrospectorCall) where
  describe driver database := do
    let (s, calls) ← get
    let (answer, s) := (introspector.describe driver database).run s
    set (s, calls ++ [.describe driver database])
    return answer
  execute database sql := do
    let (s, calls) ← get
    let (answer, s) := (introspector.execute database sql).run s
    set (s, calls ++ [.execute database sql])
    return answer

/-- An introspector whose rows are changed before they are returned. -/
def mapRows (introspector : Introspector σ) (f : List Row → List Row) : Introspector σ where
  describe := introspector.describe
  execute database sql := do
    let answer ← introspector.execute database sql
    return answer.map f

variable (introspector : Introspector σ) (driver : String) (database : DatabaseRef) (sql : String)
  (s : σ) (calls : List IntrospectorCall)

@[simp] theorem run_recorded_describe :
    (introspector.recorded.describe driver database).run (s, calls) =
      (((introspector.describe driver database).run s).1,
        ((introspector.describe driver database).run s).2,
        calls ++ [.describe driver database]) :=
  rfl

@[simp] theorem run_recorded_execute :
    (introspector.recorded.execute database sql).run (s, calls) =
      (((introspector.execute database sql).run s).1, ((introspector.execute database sql).run s).2,
        calls ++ [.execute database sql]) :=
  rfl

@[simp] theorem run_mapRows_execute (f : List Row → List Row) :
    ((introspector.mapRows f).execute database sql).run s =
      (((introspector.execute database sql).run s).1.map f,
        ((introspector.execute database sql).run s).2) :=
  rfl

end Introspector

namespace CatalogMerger

variable {σ : Type}

/-- The tables that an answer to the query leaves of the tables that are there already. -/
def completed (base : TableSet) (answer : Except FetchError (List Row)) : TableSet :=
  match answer.bind Row.tables with
  | .error _ => base
  | .ok tables => base.union tables

/-- The steps of a description: the tables, and then the query unless they are missing or nothing
more is wanted. -/
theorem run_describe (merger : CatalogMerger) (introspector : Introspector σ)
    (driver : String) (database : DatabaseRef) (s : σ) :
    (merger.describe introspector driver database).run s =
      match (introspector.describe driver database).run s with
      | (.error e, s') => (.error e, s')
      | (.ok base, s') =>
        if merger.supplementary then
          let (answer, s'') := (introspector.execute database merger.query).run s'
          (.ok (completed base answer), s'')
        else (.ok base, s') := by
  unfold describe
  rw [StateT.run_bind]
  obtain ⟨answer, s'⟩ := (introspector.describe driver database).run s
  cases answer with
  | error e => rfl
  | ok base =>
    -- from here on nothing can fail: both answers of the query end in a set of tables
    show (if merger.supplementary then _ else pure (.ok base) : StateM σ _).run s' =
      if merger.supplementary then _ else (Except.ok base, s')
    split
    · rw [StateT.run_bind, fetchSupplementary, StateT.run_bind]
      obtain ⟨rows, s''⟩ := (introspector.execute database merger.query).run s'
      show (match rows.bind Row.tables with
        | .error _ => pure (Except.ok base)
        | .ok tables => pure (Except.ok (base.union tables)) : StateM σ _).run s'' =
          (Except.ok (completed base rows), s'')
      unfold completed
      cases rows.bind Row.tables with
      | error e => rfl
      | ok tables => rfl
    · rfl

/-- The calls that a description makes, in order. -/
def callsMade (merger : CatalogMerger) (introspector : Introspector σ) (driver : String)
    (database : DatabaseRef) (s : σ) : List IntrospectorCall :=
  ((merger.describe introspector.recorded driver database).run (s, [])).2.2

/-- The ways in which a description can come out: its result, the state after it and the calls that
it made. -/
inductive Outcome (merger : CatalogMerger) (introspector : Introspector σ)
    (driver : String) (database : DatabaseRef) (s : σ) :
    Except FetchError TableSet → σ → List IntrospectorCall → Prop where
  /-- The tables cannot be had. -/
  | baseFailed {e : FetchError} {s' : σ}
      (hbase : (introspector.describe driver database).run s = (.error e, s')) :
      Outcome merger introspector driver database s (.error e) s' [.describe driver database]
  /-- Nothing but the tables is wanted. -/
  | baseOnly {base : TableSet} {s' : σ}
      (hbase : (introspector.describe driver database).run s = (.ok base, s'))
      (hoff : merger.supplementary = false) :
      Outcome merger introspector driver database s (.ok base) s' [.describe driver database]
  /-- The query fails, for whatever reason. -/
  | queryFailed {base : TableSet} {e : FetchError} {s' s'' : σ}
      (hbase : (introspector.describe driver database).run s = (.ok base, s'))
      (hon : merger.supplementary = true)
      (hquery : (introspector.execute database merger.query).run s' = (.error e, s'')) :
      Outcome merger introspector driver database s (.ok base) s''
        [.describe driver database, .execute database merger.query]
  /-- One of the rows names no table. -/
  | rowRefused {base : TableSet} {rows : List Row} {s' s'' : σ}
      (hbase : (introspector.describe driver database).run s = (.ok base, s'))
      (hon : merger.supplementary = true)
      (hquery : (introspector.execute database merger.query).run s' = (.ok rows, s''))
      (hrow : ∃ row ∈ rows, ∀ table, ¬ row.Names table) :
      Outcome merger introspector driver database s (.ok base) s''
        [.describe driver database, .execute database merger.query]
  /-- Every row names a table, and all of these are added. -/
  | merged {base all : TableSet} {rows : List Row} {s' s'' : σ}
      (hbase : (introspector.describe driver database).run s = (.ok base, s'))
      (hon : merger.supplementary = true)
      (hquery : (introspector.execute database merger.query).run s' = (.ok rows, s''))
      (hrows : ∀ row ∈ rows, ∃ table, row.Names table)
      (hall : ∀ table, table ∈ all.tables ↔ table ∈ base.tables ∨ ∃ row ∈ rows, row.Names table) :
      Outcome merger introspector driver database s (.ok all) s''
        [.describe driver database, .execute database merger.query]

theorem completed_of_refused {rows : List Row} (base : TableSet)
    (h : ∃ row ∈ rows, ∀ table, ¬ row.Names table) : completed base (.ok rows) = base := by
  unfold completed
  show (match Row.tables rows with | .error _ => base | .ok tables => base.union tables) = base
  cases htables : Row.tables rows with
  | error e => rfl
  | ok tables =>
    obtain ⟨row, hrow, hnone⟩ := h
    obtain ⟨table, htable⟩ := Row.exists_tables_iff.1 ⟨tables, htables⟩ row hrow
    exact absurd htable (hnone table)

theorem mem_completed {rows : List Row} (base : TableSet)
    (h : ∀ row ∈ rows, ∃ table, row.Names table) (table : TableName) :
    table ∈ (completed base (.ok rows)).tables ↔
      table ∈ base.tables ∨ ∃ row ∈ rows, row.Names table := by
  obtain ⟨tables, htables⟩ := Row.exists_tables_iff.2 h
  have hcompleted : completed base (.ok rows) = base.union tables := by
    simp only [completed, Except.bind, htables]
  rw [hcompleted, TableSet.mem_union, Row.mem_tables htables, or_comm]

/-! ## Outcomes of runs -/

variable {merger : CatalogMerger} {introspector : Introspector σ} {driver : String}
  {database : DatabaseRef} {s s' s'' : σ}

theorem run_describe_of_error {e : FetchError}
    (hbase : (introspector.describe driver database).run s = (.error e, s')) :
    (merger.describe introspector driver database).run s = (.error e, s') := by
  rw [run_describe, hbase]

theorem run_describe_of_off {base : TableSet}
    (hbase : (introspector.describe driver database).run s = (.ok base, s'))
    (hoff : merger.supplementary = false) :
    (merger.describe introspector driver database).run s = (.ok base, s') := by
  rw [run_describe, hbase]
  simp only [hoff, Bool.false_eq_true, if_false]

theorem run_describe_of_on {base : TableSet} {answer : Except FetchError (List Row)}
    (hbase : (introspector.describe driver database).run s = (.ok base, s'))
    (hon : merger.supplementary = true)
    (hquery : (introspector.execute database merger.query).run s' = (answer, s'')) :
    (merger.describe introspector driver database).run s = (.ok (completed base answer), s'') := by
  rw [run_describe, hbase]
  simp only [hon, if_true, hquery]

theorem callsMade_of_error {e : FetchError}
    (hbase : (introspector.describe driver database).run s = (.error e, s')) :
    merger.callsMade introspector driver database s = [.describe driver database] := by
  unfold callsMade
  rw [run_describe, Introspector.run_recorded_describe, hbase]
  rfl

theorem callsMade_of_off {base : TableSet}
    (hbase : (introspector.describe driver database).run s = (.ok base, s'))
    (hoff : merger.supplementary = false) :
    merger.callsMade introspector driver database s = [.describe driver database] := by
  unfold callsMade
  rw [run_describe, Introspector.run_recorded_describe, hbase]
  simp [hoff]

theorem callsMade_of_on {base : TableSet}
    (hbase : (introspector.describe driver database).run s = (.ok base, s'))
    (hon : merger.supplementary = true) :
    merger.callsMade introspector driver database s =
      [.describe driver database, .execute database merger.query] := by
  unfold callsMade
  rw [run_describe, Introspector.run_recorded_describe, hbase]
  simp [hon]

/-- Keeping the calls changes neither the result nor the state. -/
theorem run_describe_recorded (merger : CatalogMerger) (introspector : Introspector σ)
    (driver : String) (database : DatabaseRef) (s : σ) (calls : List IntrospectorCall) :
    (merger.describe introspector.recorded driver database).run (s, calls) =
      (((merger.describe introspector driver database).run s).1,
        ((merger.describe introspector driver database).run s).2,
        calls ++ merger.callsMade introspector driver database s) := by
  unfold callsMade
  simp only [run_describe, Introspector.run_recorded_describe]
  obtain ⟨answer, s'⟩ := (introspector.describe driver database).run s
  cases answer with
  | error e => rfl
  | ok base =>
    cases merger.supplementary with
    | false => rfl
    | true =>
      cases hquery : (introspector.execute database merger.query).run s' with
      | mk rows s'' => simp [hquery]

theorem Outcome.run_eq {r : Except FetchError TableSet} {calls : List IntrospectorCall}
    (h : Outcome merger introspector driver database s r s' calls) :
    (merger.describe introspector driver database).run s = (r, s') ∧
      merger.callsMade introspector driver database s = calls := by
  cases h with
  | baseFailed hbase => exact ⟨run_describe_of_error hbase, callsMade_of_error hbase⟩
  | baseOnly hbase hoff => exact ⟨run_describe_of_off hbase hoff, callsMade_of_off hbase hoff⟩
  | queryFailed hbase hon hquery =>
    exact ⟨run_describe_of_on hbase hon hquery, callsMade_of_on hbase hon⟩
  | @rowRefused base rows _ _ hbase hon hquery hrow =>
    have hrun := run_describe_of_on hbase hon hquery
    rw [completed_of_refused base hrow] at hrun
    exact ⟨hrun, callsMade_of_on hbase hon⟩
  | @merged base all rows _ _ hbase hon hquery hrows hall =>
    have hrun := run_describe_of_on hbase hon hquery
    have hcompleted : completed base (.ok rows) = all := by
      apply TableSet.ext_mem
      intro table
      rw [mem_completed base hrows, hall]
    rw [hcompleted] at hrun
    exact ⟨hrun, callsMade_of_on hbase hon⟩

/-- Every description comes out in one of the ways. -/
theorem exists_outcome (merger : CatalogMerger) (introspector : Introspector σ)
    (driver : String) (database : DatabaseRef) (s : σ) :
    ∃ r s' calls, Outcome merger introspector driver database s r s' calls := by
  cases hbase : (introspector.describe driver database).run s with
  | mk answer s' =>
    cases answer with
    | error e => exact ⟨_, _, _, .baseFailed hbase⟩
    | ok base =>
      cases hmore : merger.supplementary with
      | false => exact ⟨_, _, _, .baseOnly hbase hmore⟩
      | true =>
        cases hquery : (introspector.execute database merger.query).run s' with
        | mk answer s'' =>
          cases answer with
          | error e => exact ⟨_, _, _, .queryFailed hbase hmore hquery⟩
          | ok rows =>
            by_cases hrows : ∀ row ∈ rows, ∃ table, row.Names table
            · exact ⟨_, _, _, .merged hbase hmore hquery hrows (mem_completed base hrows)⟩
            · push Not at hrows
              exact ⟨_, _, _, .rowRefused hbase hmore hquery hrows⟩

/-- The ways do not tell rows with the same contents apart. -/
theorem Outcome.mapRows {r : Except FetchError TableSet} {calls : List IntrospectorCall}
    (h : Outcome merger introspector driver database s r s' calls) {f : List Row → List Row}
    (hf : ∀ rows row, row ∈ f rows ↔ row ∈ rows) :
    Outcome merger (introspector.mapRows f) driver database s r s' calls := by
  have hmapped {answer : Except FetchError (List Row)} {s s' : σ}
      (hquery : (introspector.execute database merger.query).run s = (answer, s')) :
      ((introspector.mapRows f).execute database merger.query).run s = (answer.map f, s') := by
    rw [Introspector.run_mapRows_execute, hquery]
  cases h with
  | baseFailed hbase => exact .baseFailed hbase
  | baseOnly hbase hoff => exact .baseOnly hbase hoff
  | queryFailed hbase hon hquery => exact .queryFailed hbase hon (hmapped hquery)
  | rowRefused hbase hon hquery hrow =>
    refine .rowRefused hbase hon (hmapped hquery) ?_
    simpa only [hf] using hrow
  | merged hbase hon hquery hrows hall =>
    refine .merged hbase hon (hmapped hquery) ?_ ?_
    · simpa only [hf] using hrows
    · simpa only [hf] using hall

/-- A description comes out in exactly one of the ways, with the calls of that way; and the rows may
come in any order and any number of times. -/
theorem describe_outcome (merger : CatalogMerger) (introspector : Introspector σ)
    (driver : String) (database : DatabaseRef) (s : σ) :
    (∀ r s' calls, Outcome merger introspector driver database s r s' calls ↔
      (merger.describe introspector driver database).run s = (r, s') ∧
        merger.callsMade introspector driver database s = calls) ∧
    ∀ f : List Row → List Row, (∀ rows row, row ∈ f rows ↔ row ∈ rows) →
      (merger.describe (introspector.mapRows f) driver database).run s =
        (merger.describe introspector driver database).run s := by
  obtain ⟨r, s', calls, houtcome⟩ := exists_outcome merger introspector driver database s
  obtain ⟨hrun, hcalls⟩ := houtcome.run_eq
  refine ⟨fun r' s'' calls' => ⟨Outcome.run_eq, ?_⟩, fun f hf => ?_⟩
  · rintro ⟨hrun', hcalls'⟩
    obtain ⟨rfl, rfl⟩ := Prod.mk.inj (hrun.symm.trans hrun')
    rw [← hcalls', hcalls]
    exact houtcome
  · rw [(houtcome.mapRows hf).run_eq.1, hrun]

/-- An introspector that knows one table and finds two views, which may be found in either order. -/
theorem describe_outcome_reversed :
    let view (name : String) : Row :=
      ⟨.ofList [("schema", .string "s"), ("name", .string name)]⟩
    let merger : CatalogMerger := ⟨"views", "q", true⟩
    let introspector : Introspector Unit :=
      ⟨fun _ _ => return .ok (.ofList [⟨"s", "t"⟩]), fun _ _ => return .ok [view "w", view "v"]⟩
    let database : DatabaseRef := ⟨"d", .empty⟩
    let all : TableSet := .ofList [⟨"s", "t"⟩, ⟨"s", "v"⟩, ⟨"s", "w"⟩]
    (merger.describe introspector "vertica" database).run () = (.ok all, ()) ∧
      merger.callsMade introspector "vertica" database () =
        [.describe "vertica" database, .execute database "q"] ∧
      (merger.describe (introspector.mapRows List.reverse) "vertica" database).run () =
        (.ok all, ()) := by
  intro view merger introspector database all
  have hnames (name : String) (table : TableName) :
      (view name).Names table ↔ table = ⟨"s", name⟩ := by
    obtain ⟨schema, other⟩ := table
    simp [Row.Names, Row.get?, view, KeyedMap.ofList, KeyedMap.find?_insert, eq_comm]
  have hfound : (introspector.execute database "q").run () = (.ok [view "w", view "v"], ()) := rfl
  have hmerged : Outcome merger introspector "vertica" database () (.ok all) ()
      [.describe "vertica" database, .execute database "q"] := by
    refine .merged rfl rfl hfound ?_ fun table => ?_
    · simp [hnames]
    · have hviews : (∃ row ∈ [view "w", view "v"], row.Names table) ↔
          table = ⟨"s", "v"⟩ ∨ table = ⟨"s", "w"⟩ := by
        simp [hnames, or_comm]
      rw [hviews]
      show table ∈ [⟨"s", "t"⟩, ⟨"s", "v"⟩, ⟨"s", "w"⟩] ↔ table ∈ [⟨"s", "t"⟩] ∨ _
      simp
  obtain ⟨houtcome, hreordered⟩ := describe_outcome merger introspector "vertica" database ()
  obtain ⟨hrun, hcalls⟩ := (houtcome _ _ _).1 hmerged
  refine ⟨hrun, hcalls, ?_⟩
  rw [hreordered List.reverse (by simp), hrun]

end CatalogMerger
end SqlDialect
