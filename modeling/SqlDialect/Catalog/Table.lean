import SqlDialect.Json.Record

/-!
# Table names

A table is known by the name of its schema and its own name. Tables are ordered by the schema and
then by the name, code point by code point.
-/

namespace SqlDialect

/-- The name of a table in its schema. -/
structure TableName where
  /-- The schema. -/
  schema : String
  /-- The table in the schema. -/
  name : String
deriving DecidableEq

namespace TableName

/-- Whether a table comes before another. -/
def before (a b : TableName) : Prop :=
  a.schema < b.schema ∨ (a.schema = b.schema ∧ a.name < b.name)

instance (a b : TableName) : Decidable (a.before b) := by
  unfold before; infer_instance

/-- The schema and the table with a point between them. -/
def text (t : TableName) : String :=
  t.schema ++ "." ++ t.name

/-- The table name as a JSON object. -/
def toJson (t : TableName) : Json :=
  .ofFields [("schema", .string t.schema), ("name", .string t.name)]

/-- Reads a table name from JSON. -/
def ofJson? (json : Json) : Option TableName :=
  match json.record? .refused ["schema", "name"] with
  | some [some (.string schema), some (.string name)] => some ⟨schema, name⟩
  | _ => none

/-! ## Order -/

theorem not_before_self (a : TableName) : ¬ a.before a := by
  rintro (h | ⟨_, h⟩) <;> exact String.lt_irrefl _ h

theorem before_trans {a b c : TableName} (hab : a.before b) (hbc : b.before c) : a.before c := by
  rcases hab with hab | ⟨hs, hab⟩
  · rcases hbc with hbc | ⟨ht, _⟩
    · exact Or.inl (String.lt_trans hab hbc)
    · exact Or.inl (ht ▸ hab)
  · rcases hbc with hbc | ⟨ht, hbc⟩
    · exact Or.inl (hs ▸ hbc)
    · exact Or.inr ⟨hs.trans ht, String.lt_trans hab hbc⟩

/-- Of two different tables one comes before the other. -/
theorem eq_of_not_before {a b : TableName} (hab : ¬ a.before b) (hba : ¬ b.before a) : a = b := by
  have hschema : a.schema = b.schema :=
    String.le_antisymm (String.not_lt.1 fun h => hba (Or.inl h))
      (String.not_lt.1 fun h => hab (Or.inl h))
  have hname : a.name = b.name :=
    String.le_antisymm (String.not_lt.1 fun h => hba (Or.inr ⟨hschema.symm, h⟩))
      (String.not_lt.1 fun h => hab (Or.inr ⟨hschema, h⟩))
  cases a
  cases b
  simp_all

end TableName
end SqlDialect
