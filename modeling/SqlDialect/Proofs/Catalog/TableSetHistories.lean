import Mathlib.Data.Set.Card
import SqlDialect.Catalog.TableSet
import SqlDialect.Proofs.Text.CodePoints

/-!
# Sets of tables and their histories

A set of tables is made anew, or tables are added to it, one by one or many at once. Main statement:
after any such operations it holds the tables that were added since it was last made anew, each
once, and nothing else about the operations can be seen in it.
-/

namespace SqlDialect

/-- What changes a set of tables. -/
inductive TableSetOperation where
  /-- The set is made anew, without tables. -/
  | new
  /-- The set is made anew of the tables of a list. -/
  | ofList (tables : List TableName)
  | insert (table : TableName)
  | union (tables : List TableName)

namespace TableSetOperation

/-- The set after an operation. -/
def apply (set : TableSet) : TableSetOperation → TableSet
  | new => .empty
  | ofList tables => .ofList tables
  | insert table => (set.insertNew table).2
  | union tables => set.union tables

/-- The tables that an operation adds. -/
def tables : TableSetOperation → List TableName
  | new => []
  | ofList tables => tables
  | insert table => [table]
  | union tables => tables

/-- Whether the set is made anew. -/
def isReset : TableSetOperation → Bool
  | new | ofList _ => true
  | insert _ | union _ => false

/-- What an operation does to the members of a set. -/
theorem mem_apply {set : TableSet} (operation : TableSetOperation) {table : TableName} :
    table ∈ (operation.apply set).tables ↔
      table ∈ operation.tables ∨ (operation.isReset = false ∧ table ∈ set.tables) := by
  cases operation with
  | new => simp [apply, tables, isReset, TableSet.empty]
  | ofList added => simp [apply, tables, isReset, TableSet.ofList, TableSet.empty]
  | insert added => simp [apply, tables, isReset, TableSet.insertNew]
  | union added => simp [apply, tables, isReset]

end TableSetOperation

/-- Whether a table was added by an operation, itself one that made the set anew perhaps, after
which the set was not made anew. -/
def Added (history : List TableSetOperation) (table : TableName) : Prop :=
  ∃ (earlier : List TableSetOperation) (operation : TableSetOperation)
    (later : List TableSetOperation), history = earlier ++ operation :: later ∧
      table ∈ operation.tables ∧ ∀ x ∈ later, x.isReset = false

theorem not_added_nil (table : TableName) : ¬ Added [] table := by
  rintro ⟨earlier, operation, later, hsplit, -⟩
  simp at hsplit

theorem added_cons {operation : TableSetOperation} {later : List TableSetOperation}
    {table : TableName} :
    Added (operation :: later) table ↔
      Added later table ∨ (table ∈ operation.tables ∧ ∀ x ∈ later, x.isReset = false) := by
  constructor
  · rintro ⟨earlier, adding, rest, hsplit, hmem, hrest⟩
    cases earlier with
    | nil =>
      obtain ⟨rfl, rfl⟩ := List.cons.inj hsplit
      exact Or.inr ⟨hmem, hrest⟩
    | cons first earlier =>
      obtain ⟨-, hlater⟩ := List.cons.inj hsplit
      exact Or.inl ⟨earlier, adding, rest, hlater, hmem, hrest⟩
  · rintro (⟨earlier, adding, rest, rfl, hmem, hrest⟩ | ⟨hmem, hrest⟩)
    · exact ⟨operation :: earlier, adding, rest, rfl, hmem, hrest⟩
    · exact ⟨[], operation, later, rfl, hmem, hrest⟩

namespace TableSet

/-- The set after operations one after another. -/
def afterFrom (set : TableSet) (history : List TableSetOperation) : TableSet :=
  history.foldl TableSetOperation.apply set

/-- The set that operations lead to, at first one without tables. -/
def after (history : List TableSetOperation) : TableSet :=
  empty.afterFrom history

theorem afterFrom_concat (set : TableSet) (history : List TableSetOperation)
    (operation : TableSetOperation) :
    set.afterFrom (history ++ [operation]) = operation.apply (set.afterFrom history) :=
  List.foldl_append

/-- The members of a set stay until it is made anew. -/
theorem mem_afterFrom {set : TableSet} {history : List TableSetOperation} {table : TableName} :
    table ∈ (set.afterFrom history).tables ↔
      Added history table ∨ ((∀ x ∈ history, x.isReset = false) ∧ table ∈ set.tables) := by
  induction history generalizing set with
  | nil => simp [afterFrom, not_added_nil]
  | cons operation later ih =>
    rw [added_cons]
    show table ∈ ((operation.apply set).afterFrom later).tables ↔ _
    rw [ih, TableSetOperation.mem_apply, List.forall_mem_cons]
    tauto

theorem mem_after {history : List TableSetOperation} {table : TableName} :
    table ∈ (after history).tables ↔ Added history table := by
  rw [after, mem_afterFrom]
  simp [empty]

theorem nodup_tables (set : TableSet) : set.tables.Nodup := by
  refine set.ascending.imp ?_
  rintro a b hab rfl
  exact TableName.not_before_self a hab

/-- The size of a set counts its members. -/
theorem size_eq_ncard (set : TableSet) : set.size = {table | table ∈ set.tables}.ncard := by
  rw [← List.coe_toFinset, Set.ncard_coe_finset, List.toFinset_card_of_nodup set.nodup_tables]
  rfl

theorem insertNew_fst_iff {set : TableSet} {table : TableName} :
    (set.insertNew table).1 = true ↔ table ∉ set.tables :=
  isNew_iff set.ascending

/-- The JSON form of a set lists its tables in their order. -/
theorem toJson_eq (set : TableSet) :
    set.toJson = .object [("tables", .array (set.tables.map fun table =>
      .object [("name", .string table.name), ("schema", .string table.schema)]))] := by
  have htable (table : TableName) : table.toJson =
      .object [("name", .string table.name), ("schema", .string table.schema)] := by
    show Json.object (KeyedMap.insertEntry "name" _ [("schema", _)]) = _
    rw [KeyedMap.insertEntry, if_pos (show "name" < "schema" by decide)]
  rw [← funext htable]
  rfl

/-- After any operations, a set of tables holds, in ascending order, exactly the tables that were
added since it was made anew, and its JSON form lists them in the same order. A table is found in it
if it was added, and adding it tells whether it was not; its size is the number of different tables
that were added. Operations that added the same tables lead to the same set. -/
theorem holds_what_was_added (history : List TableSetOperation) :
    ((after history).tables.Pairwise fun a b =>
      codePoints a.schema < codePoints b.schema ∨
        (a.schema = b.schema ∧ codePoints a.name < codePoints b.name)) ∧
    (after history).toJson = .object [("tables", .array ((after history).tables.map fun table =>
      .object [("name", .string table.name), ("schema", .string table.schema)]))] ∧
    (∀ schema name : String,
      (after history).contains ⟨schema, name⟩ = true ↔ Added history ⟨schema, name⟩) ∧
    (∀ table : TableName,
      (((after history).insertNew table).1 = true ↔ ¬ Added history table) ∧
      ((after history).insertNew table).2 = after (history ++ [.insert table])) ∧
    (after history).size = {table | Added history table}.ncard ∧
    ((after history).isEmpty = true ↔ (after history).size = 0) ∧
    ∀ other : List TableSetOperation, (∀ table, Added other table ↔ Added history table) →
      after other = after history := by
  refine ⟨?_, toJson_eq _, ?_, ?_, ?_, ?_, ?_⟩
  · refine (after history).ascending.imp ?_
    rintro a b (hschema | ⟨hschema, hname⟩)
    · exact Or.inl (codePoints_lt hschema)
    · exact Or.inr ⟨hschema, codePoints_lt hname⟩
  · intro schema name
    rw [contains_iff, mem_after]
  · intro table
    refine ⟨?_, ?_⟩
    · rw [insertNew_fst_iff, mem_after]
    · exact (afterFrom_concat empty history (.insert table)).symm
  · rw [size_eq_ncard]
    simp only [mem_after]
  · rw [isEmpty, size, List.isEmpty_iff, List.length_eq_zero_iff]
  · intro other hsame
    refine ext_mem fun table => ?_
    rw [mem_after, mem_after, hsame]

/-- Tables that are listed twice and out of order, against the same tables put in one by one after
others that were given up. -/
theorem holds_what_was_added_in_two_orders :
    let orders : TableName := ⟨"sales", "orders"⟩
    let places : TableName := ⟨"public", "places"⟩
    let listed : List TableSetOperation := [.ofList [orders, places, orders]]
    let single : List TableSetOperation :=
      [.insert ⟨"old", "orders"⟩, .new, .insert places, .union [], .insert orders, .insert places]
    (∀ table, Added single table ↔ Added listed table) ∧
      after single = after listed ∧ (after listed).tables = [places, orders] := by
  intro orders places listed single
  have hsame (table : TableName) : Added single table ↔ Added listed table := by
    simp only [single, listed, added_cons, not_added_nil, TableSetOperation.tables,
      TableSetOperation.isReset, List.mem_cons, List.not_mem_nil, forall_eq_or_imp, forall_eq,
      IsEmpty.forall_iff, implies_true, Bool.true_eq_false, or_false, false_or, and_true, and_false,
      and_self]
    tauto
  obtain ⟨-, -, -, -, -, -, hequal⟩ := holds_what_was_added listed
  exact ⟨hsame, hequal single hsame, by decide⟩

end TableSet
end SqlDialect
