import SqlDialect.Session

/-!
# The statement for the time zone

The name of a time zone comes from outside and ends up in a statement. Whatever it holds, be it
quotes, semicolons, comments or the placeholder itself, it stays inside one string literal. Main
statement: every way to read a literal off the statement gives the name back and leaves nothing but
the semicolon.
-/

namespace SqlDialect.Session

theorem toList_timezoneStatement (zone : String) :
    (timezoneStatement zone).toList =
      "SET TIME ZONE TO '".toList ++ Text.double '\'' zone.toList ++ "';".toList := by
  have hbefore : '%' ∉ "SET TIME ZONE TO ".toList := by decide
  have hafter : '%' ∉ [';'] := by simp
  have htemplate : timezoneTemplate.toList = "SET TIME ZONE TO ".toList ++ '%' :: 's' :: [';'] :=
    rfl
  have hliteral : (Literal.string zone).chars = '\'' :: (Text.double '\'' zone.toList ++ ['\'']) :=
    rfl
  have hopening : "SET TIME ZONE TO '".toList = "SET TIME ZONE TO ".toList ++ ['\''] := rfl
  have hclosing : "';".toList = ['\'', ';'] := rfl
  rw [timezoneStatement, String.toList_ofList, htemplate, Text.fillIn_append _ hbefore,
    Text.fillIn_eq_self _ hafter, hliteral, hopening, hclosing]
  simp only [List.append_assoc, List.cons_append, List.nil_append]

theorem scan_double_statementEnd (zone : String) :
    Text.scan '\'' (Text.double '\'' zone.toList ++ "';".toList) = some (zone.toList, [';']) :=
  Text.scan_double_append zone.toList [';'] (by simp)

/-- However a literal is read from the opening quote on, it is the name of the zone. -/
theorem literal_of_timezoneStatement {zone : String} {raw inside rest : List Char}
    (hraw : Text.Doubled '\'' raw inside) (hrest : rest.head? ≠ some '\'')
    (htext : (timezoneStatement zone).toList =
      "SET TIME ZONE TO '".toList ++ raw ++ '\'' :: rest) :
    inside = zone.toList ∧ rest = [';'] := by
  have hbody : Text.double '\'' zone.toList ++ "';".toList = raw ++ '\'' :: rest := by
    rw [toList_timezoneStatement, List.append_assoc, List.append_assoc] at htext
    exact List.append_cancel_left htext
  have hscan : Text.scan '\'' (Text.double '\'' zone.toList ++ "';".toList) = some (inside, rest) :=
    Text.scan_eq_some_iff.2 ⟨raw, hraw, hbody, hrest⟩
  rw [scan_double_statementEnd] at hscan
  cases hscan
  exact ⟨rfl, rfl⟩

theorem timezoneStatement_inj {zone zone' : String} :
    timezoneStatement zone = timezoneStatement zone' ↔ zone = zone' := by
  constructor
  · intro h
    have htext : (timezoneStatement zone).toList =
        "SET TIME ZONE TO '".toList ++ Text.double '\'' zone'.toList ++ '\'' :: [';'] := by
      rw [h]
      exact toList_timezoneStatement zone'
    obtain ⟨hsame, -⟩ :=
      literal_of_timezoneStatement (Text.doubled_double '\'' zone'.toList) (by simp) htext
    exact (String.toList_inj.1 hsame).symm
  · intro h
    rw [h]

/-- A statement for a time zone is one string literal between fixed texts. Read from the opening
quote on, the first quote without a second one is the one before the final semicolon, and what
stands between is the name of the zone with its quotes doubled; so the name is found again, and
different names have different statements. -/
theorem timezoneStatement_reads_back :
    (∀ zone : String, ∃ raw : List Char, Text.Doubled '\'' raw zone.toList ∧
      (timezoneStatement zone).toList = "SET TIME ZONE TO '".toList ++ raw ++ "';".toList ∧
      Text.scan '\'' (raw ++ "';".toList) = some (zone.toList, [';'])) ∧
    (∀ (zone : String) (raw inside rest : List Char), Text.Doubled '\'' raw inside →
      rest.head? ≠ some '\'' →
      (timezoneStatement zone).toList = "SET TIME ZONE TO '".toList ++ raw ++ '\'' :: rest →
      inside = zone.toList ∧ rest = [';']) ∧
    ∀ zone zone' : String, timezoneStatement zone = timezoneStatement zone' ↔ zone = zone' := by
  refine ⟨fun zone => ?_, ?_, ?_⟩
  · exact ⟨_, Text.doubled_double '\'' zone.toList, toList_timezoneStatement zone,
      scan_double_statementEnd zone⟩
  · intro zone raw inside rest hraw hrest htext
    exact literal_of_timezoneStatement hraw hrest htext
  · intro zone zone'
    exact timezoneStatement_inj

/-- A name that ends a statement of its own, starts a comment and holds the placeholder. -/
theorem timezoneStatement_reads_back_of_injection :
    ∃ raw : List Char, raw = "x''; DROP TABLE t; --%s''".toList ∧
      (timezoneStatement "x'; DROP TABLE t; --%s'").toList =
        "SET TIME ZONE TO '".toList ++ raw ++ '\'' :: [';'] ∧
      Text.Doubled '\'' raw "x'; DROP TABLE t; --%s'".toList ∧
      (∀ inside : List Char, Text.Doubled '\'' raw inside →
        inside = "x'; DROP TABLE t; --%s'".toList) ∧
      timezoneStatement "x'; DROP TABLE t; --%s'" ≠ timezoneStatement "x" := by
  have hraw : "x''; DROP TABLE t; --%s''".toList =
      Text.double '\'' "x'; DROP TABLE t; --%s'".toList := rfl
  obtain ⟨-, hread, hinj⟩ := timezoneStatement_reads_back
  have htext := toList_timezoneStatement "x'; DROP TABLE t; --%s'"
  refine ⟨_, rfl, ?_, Text.doubled_iff.2 hraw, fun inside hinside => ?_, fun hsame => ?_⟩
  · rw [hraw]
    exact htext
  · rw [hraw] at hinside
    exact (hread _ _ inside [';'] hinside (by simp) htext).1
  · exact absurd ((hinj _ _).1 hsame) (by decide)

end SqlDialect.Session
