import SqlDialect.Catalog.Table

/-!
# Sets of tables

The tables of a database, kept in strictly ascending order. Adding a table twice is the same as
adding it once, and the order in which tables are added can be seen nowhere: sets with the same
members are equal.
-/

namespace SqlDialect

/-- A finite set of tables. -/
structure TableSet where
  /-- The tables, ascending. -/
  tables : List TableName
  /-- No table occurs twice and the order is ascending. -/
  ascending : tables.Pairwise TableName.before

namespace TableSet

/-! ## Ascending lists -/

/-- Puts a table in its place, unless it is there already. -/
def insertTable (table : TableName) : List TableName → List TableName
  | [] => [table]
  | first :: rest =>
    if table.before first then table :: first :: rest
    else if first.before table then first :: insertTable table rest
    else first :: rest

/-- Whether a table is missing from an ascending list; the search ends where the table would stand. -/
def isNew (table : TableName) : List TableName → Bool
  | [] => true
  | first :: rest =>
    if table.before first then true
    else if first.before table then isNew table rest
    else false

theorem mem_insertTable {table other : TableName} {tables : List TableName} :
    other ∈ insertTable table tables ↔ other = table ∨ other ∈ tables := by
  induction tables with
  | nil => simp [insertTable]
  | cons first rest ih =>
    unfold insertTable
    split
    · simp
    · next hnot =>
      split
      · simp only [List.mem_cons, ih]
        grind
      · next hnot' =>
        have : first = table := TableName.eq_of_not_before hnot' hnot
        subst this
        simp

theorem pairwise_insertTable (table : TableName) {tables : List TableName}
    (h : tables.Pairwise TableName.before) :
    (insertTable table tables).Pairwise TableName.before := by
  induction tables with
  | nil => simp [insertTable]
  | cons first rest ih =>
    obtain ⟨hfirst, hrest⟩ := List.pairwise_cons.1 h
    unfold insertTable
    split
    · next hbefore =>
      refine List.pairwise_cons.2 ⟨fun x hx => ?_, h⟩
      rcases List.mem_cons.1 hx with rfl | hx
      · exact hbefore
      · exact TableName.before_trans hbefore (hfirst x hx)
    · split
      · next hafter =>
        refine List.pairwise_cons.2 ⟨fun x hx => ?_, ih hrest⟩
        rcases mem_insertTable.1 hx with rfl | hx
        · exact hafter
        · exact hfirst x hx
      · exact h

/-- The search for a place finds a table exactly when it is in the list. -/
theorem isNew_iff {table : TableName} {tables : List TableName}
    (h : tables.Pairwise TableName.before) : isNew table tables = true ↔ table ∉ tables := by
  induction tables with
  | nil => simp [isNew]
  | cons first rest ih =>
    obtain ⟨hfirst, hrest⟩ := List.pairwise_cons.1 h
    unfold isNew
    split
    · next hbefore =>
      refine iff_of_true rfl fun hmem => ?_
      rcases List.mem_cons.1 hmem with rfl | hmem
      · exact TableName.not_before_self _ hbefore
      · exact TableName.not_before_self _ (TableName.before_trans hbefore (hfirst _ hmem))
    · next hnot =>
      split
      · next hafter =>
        have hne : table ≠ first := fun heq => hnot (heq ▸ hafter)
        simp [ih hrest, hne]
      · next hnot' =>
        have heq : first = table := TableName.eq_of_not_before hnot' hnot
        simp [heq]

/-- Ascending lists with the same members are equal. -/
theorem tables_ext {first second : List TableName} (hfirst : first.Pairwise TableName.before)
    (hsecond : second.Pairwise TableName.before) (h : ∀ t, t ∈ first ↔ t ∈ second) :
    first = second := by
  induction first generalizing second with
  | nil =>
    cases second with
    | nil => rfl
    | cons b bs => simpa using (h b).2 (by simp)
  | cons a as ih =>
    cases second with
    | nil => simpa using (h a).1 (by simp)
    | cons b bs =>
      obtain ⟨ha, has⟩ := List.pairwise_cons.1 hfirst
      obtain ⟨hb, hbs⟩ := List.pairwise_cons.1 hsecond
      have hab : a = b := by
        refine TableName.eq_of_not_before (fun hlt => ?_) (fun hlt => ?_)
        · rcases List.mem_cons.1 ((h a).1 (by simp)) with heq | hmem
          · exact TableName.not_before_self b (heq ▸ hlt)
          · exact TableName.not_before_self a (TableName.before_trans hlt (hb a hmem))
        · rcases List.mem_cons.1 ((h b).2 (by simp)) with heq | hmem
          · exact TableName.not_before_self a (heq ▸ hlt)
          · exact TableName.not_before_self b (TableName.before_trans hlt (ha b hmem))
      subst hab
      have htails : as = bs := by
        refine ih has hbs fun t => ?_
        constructor
        · intro ht
          rcases List.mem_cons.1 ((h t).1 (List.mem_cons_of_mem _ ht)) with heq | hmem
          · exact absurd (heq ▸ ha t ht) (TableName.not_before_self t)
          · exact hmem
        · intro ht
          rcases List.mem_cons.1 ((h t).2 (List.mem_cons_of_mem _ ht)) with heq | hmem
          · exact absurd (heq ▸ hb t ht) (TableName.not_before_self t)
          · exact hmem
      rw [htails]

/-! ## Sets -/

instance : DecidableEq TableSet := fun a b =>
  if h : a.tables = b.tables then
    .isTrue (by cases a; cases b; simp_all)
  else .isFalse fun heq => h (heq ▸ rfl)

/-- The set without tables. -/
def empty : TableSet := ⟨[], List.Pairwise.nil⟩

instance : Inhabited TableSet := ⟨empty⟩

/-- Whether a table is in the set. -/
def contains (set : TableSet) (table : TableName) : Bool :=
  set.tables.contains table

/-- The set with a table added. -/
def insert (set : TableSet) (table : TableName) : TableSet :=
  ⟨insertTable table set.tables, pairwise_insertTable table set.ascending⟩

/-- Adds a table and tells whether it was not there before. -/
def insertNew (set : TableSet) (table : TableName) : Bool × TableSet :=
  (isNew table set.tables, set.insert table)

/-- The set with all tables of a list added. -/
def union (set : TableSet) (tables : List TableName) : TableSet :=
  tables.foldl insert set

/-- The set of the tables of a list. -/
def ofList (tables : List TableName) : TableSet :=
  empty.union tables

/-- The number of tables. -/
def size (set : TableSet) : Nat :=
  set.tables.length

/-- Whether there are no tables. -/
def isEmpty (set : TableSet) : Bool :=
  set.tables.isEmpty

/-- The set as a JSON object with a list of its tables. -/
def toJson (set : TableSet) : Json :=
  .ofFields [("tables", .array (set.tables.map TableName.toJson))]

/-- Reads a set from JSON; the tables may be listed in any order and more than once. -/
def ofJson? (json : Json) : Option TableSet :=
  match json.record? .refused ["tables"] with
  | some [some (.array items)] => (Json.all? TableName.ofJson? items).map ofList
  | _ => none

/-- Sets with the same members are equal. -/
theorem ext_mem {first second : TableSet} (h : ∀ t, t ∈ first.tables ↔ t ∈ second.tables) :
    first = second := by
  cases first with
  | mk ft fa =>
    cases second with
    | mk st sa =>
      have : ft = st := tables_ext fa sa h
      subst this
      rfl

@[simp] theorem mem_insert {set : TableSet} {table other : TableName} :
    other ∈ (set.insert table).tables ↔ other = table ∨ other ∈ set.tables :=
  mem_insertTable

@[simp] theorem mem_union {set : TableSet} {tables : List TableName} {other : TableName} :
    other ∈ (set.union tables).tables ↔ other ∈ tables ∨ other ∈ set.tables := by
  unfold union
  induction tables generalizing set with
  | nil => simp
  | cons t ts ih => simp [ih]; grind

theorem contains_iff {set : TableSet} {table : TableName} :
    set.contains table = true ↔ table ∈ set.tables := by
  simp [contains]

end TableSet
end SqlDialect
