import SqlDialect.Proofs.Connection.Readings

/-!
# What a spec depends on

Some differences between connection details cannot be seen in what they come to: whether the
connection is to be encrypted, the older name of the database beside a newer one that can be used,
and separators in front of the options. Main statement: details that differ in nothing else come to
the same result, be it a spec or a refusal.
-/

namespace SqlDialect

/-- A field that names a database is a text that is not empty, or a number. -/
def NamesDatabase : Option Json → Prop
  | some (.string s) => s ≠ ""
  | some (.number _) => True
  | _ => False

/-- The options that a field holds. Only a text or a number holds any. -/
def optionsHeld : Option Json → List Char
  | some (.string s) => s.toList
  | some (.number n) => n.chars
  | _ => []

/-- The options that a field holds, from the first character on that is no separator. -/
def optionsMeant (field : Option Json) : List Char :=
  (optionsHeld field).dropWhile fun c => c = '?' ∨ c = ';'

/-- Connection details that differ only in what cannot be seen afterwards. -/
structure AlikeDetails (first second : KeyedMap Json) : Prop where
  host : first.find? "host" = second.find? "host"
  port : first.find? "port" = second.find? "port"
  dbname : first.find? "dbname" = second.find? "dbname"
  db : ¬ NamesDatabase (first.find? "dbname") → first.find? "db" = second.find? "db"
  options : optionsMeant (first.find? "additional-options") =
    optionsMeant (second.find? "additional-options")
  others : ∀ name ∉ ["host", "port", "dbname", "db", "ssl", "additional-options"],
    first.find? name = second.find? name

namespace ConnectionReading

open ConnectionParams (readFields readText)
open ConnectionSpec (strippedOptions)

theorem exists_readText {field : Option Json} (h : NamesDatabase field) :
    ∃ text, readText field = some text := by
  unfold NamesDatabase at h
  split at h
  · next s => exact ⟨s, if_neg h⟩
  · next n => exact ⟨n.text, rfl⟩
  · exact h.elim

theorem strippedOptions_readText (field : Option Json) :
    strippedOptions (readText field) = String.ofList (optionsMeant field) := by
  unfold strippedOptions optionsMeant
  have hheld : ((readText field).getD "").toList = optionsHeld field := by
    cases field with
    | none => rfl
    | some value =>
      cases value with
      | string s =>
        by_cases hempty : s = ""
        · simp [readText, optionsHeld, hempty]
        · simp [readText, optionsHeld, hempty]
      | number n => exact String.toList_ofList
      | _ => rfl
  rw [hheld]

theorem database_eq {first second : KeyedMap Json} (h : AlikeDetails first second) :
    ((readText (first.find? "dbname")).or (readText (first.find? "db"))).getD "" =
      ((readText (second.find? "dbname")).or (readText (second.find? "db"))).getD "" := by
  rw [← h.dbname]
  by_cases hnames : NamesDatabase (first.find? "dbname")
  · obtain ⟨text, htext⟩ := exists_readText hnames
    rw [htext, Option.some_or, Option.some_or]
  · rw [h.db hnames]

theorem read_alike {first second : KeyedMap Json} (h : AlikeDetails first second) :
    ofDetails first = ofDetails second := by
  have hoptions : strippedOptions (readText (first.find? "additional-options")) =
      strippedOptions (readText (second.find? "additional-options")) := by
    rw [strippedOptions_readText, strippedOptions_readText, h.options]
  have hpassed : (first.filterKeys fun name => !readFields.contains name) =
      second.filterKeys fun name => !readFields.contains name := by
    refine KeyedMap.ext_find? fun name => ?_
    rw [KeyedMap.find?_filterKeys, KeyedMap.find?_filterKeys]
    by_cases hname : name ∈ readFields
    · simp [hname]
    · rw [h.others name hname]
  unfold ofDetails
  rw [h.host, h.port, database_eq h, hoptions, hpassed]

end ConnectionReading

/-- A value put in where it cannot be seen. -/
theorem AlikeDetails.insert {details : KeyedMap Json} {name : String} {value : Json}
    (hname : name ∈ ["db", "ssl", "additional-options"])
    (hdb : name = "db" → NamesDatabase (details.find? "dbname"))
    (hoptions : name = "additional-options" →
      optionsMeant (some value) = optionsMeant (details.find? "additional-options")) :
    AlikeDetails (details.insert name value) details := by
  have hkept : ∀ other, other ∉ ["db", "ssl", "additional-options"] →
      (details.insert name value).find? other = details.find? other := by
    intro other hother
    refine KeyedMap.find?_insert_of_ne details value ?_
    rintro rfl
    exact hother hname
  have hdbname := hkept "dbname" (by decide)
  refine ⟨hkept "host" (by decide), hkept "port" (by decide), hdbname, ?_, ?_, ?_⟩
  · intro hnone
    refine KeyedMap.find?_insert_of_ne details value fun heq => hnone ?_
    rw [hdbname]
    exact hdb heq
  · by_cases heq : name = "additional-options"
    · rw [← hoptions heq, heq, KeyedMap.find?_insert_self]
    · rw [KeyedMap.find?_insert_of_ne details value heq]
  · intro other hother
    refine hkept other fun hmem => hother ?_
    have hsubset : ["db", "ssl", "additional-options"] ⊆
        ["host", "port", "dbname", "db", "ssl", "additional-options"] := by decide
    exact hsubset hmem

theorem optionsMeant_of_separators {options : String}
    (h : ∀ c ∈ options.toList, c = '?' ∨ c = ';') : optionsMeant (some (.string options)) = [] := by
  refine List.dropWhile_eq_nil_iff.2 ?_
  intro c hc
  exact decide_eq_true (h c hc)

namespace ConnectionSpec

theorem eq_of_alike {first second : KeyedMap Json} (h : AlikeDetails first second) :
    ofDetails first = ofDetails second :=
  ConnectionReading.ofDetails_eq_iff.2 (ConnectionReading.read_alike h)

/-- Details come to the same result exactly when they are read alike, and so whenever they are alike
but for what cannot be seen: the encryption, the older name of a database that is named already, and
options that are nothing but separators. -/
theorem ofDetails_eq_of_alike :
    (∀ first second : KeyedMap Json, ofDetails first = ofDetails second ↔
      ConnectionReading.ofDetails first = ConnectionReading.ofDetails second) ∧
    (∀ first second : KeyedMap Json, AlikeDetails first second →
      ofDetails first = ofDetails second) ∧
    (∀ (details : KeyedMap Json) (value : Json),
      ofDetails (details.insert "ssl" value) = ofDetails details) ∧
    (∀ (details : KeyedMap Json) (value : Json), NamesDatabase (details.find? "dbname") →
      ofDetails (details.insert "db" value) = ofDetails details) ∧
    ∀ (details : KeyedMap Json) (options : String),
      details.find? "additional-options" = none →
      (∀ c ∈ options.toList, c = '?' ∨ c = ';') →
      ofDetails (details.insert "additional-options" (.string options)) = ofDetails details := by
  refine ⟨fun _ _ => ConnectionReading.ofDetails_eq_iff, fun _ _ => eq_of_alike, ?_, ?_, ?_⟩
  · intro details value
    exact eq_of_alike (.insert (by decide) (fun h => absurd h (by decide))
      (fun h => absurd h (by decide)))
  · intro details value hnames
    exact eq_of_alike (.insert (by decide) (fun _ => hnames) (fun h => absurd h (by decide)))
  · intro details options hnone hseparators
    refine eq_of_alike (.insert (by decide) (fun h => absurd h (by decide)) fun _ => ?_)
    rw [optionsMeant_of_separators hseparators, hnone]
    rfl

/-- The older name of a named database, the encryption, and a different separator. -/
theorem ofDetails_eq_of_alike_beside_dbname :
    let named : KeyedMap Json := .ofList [("dbname", .nat 7), ("user", .string "u")]
    let first := ((named.insert "db" (.string "x")).insert "ssl" (.bool true)).insert
      "additional-options" (.string ";?a=1")
    let second := named.insert "additional-options" (.string "?a=1")
    AlikeDetails first second ∧ ofDetails first = ofDetails second ∧
      ofDetails (named.insert "db" .null) = ofDetails named ∧
      ofDetails (named.insert "additional-options" (.string "?;?")) = ofDetails named := by
  intro named first second
  have halike : AlikeDetails first second := by
    refine ⟨rfl, rfl, rfl, fun hnone => (hnone trivial).elim, by rfl, ?_⟩
    intro name hname
    simp only [List.mem_cons, List.not_mem_nil, not_or] at hname
    obtain ⟨-, -, -, hdb, hssl, hoptions, -⟩ := hname
    simp only [first, second, KeyedMap.find?_insert, Ne.symm hdb, Ne.symm hssl, Ne.symm hoptions,
      if_false]
  have honly : ∀ c ∈ "?;?".toList, c = '?' ∨ c = ';' := by
    intro c hc
    rcases List.mem_cons.1 hc with rfl | hc
    · exact Or.inl rfl
    · rcases List.mem_cons.1 hc with rfl | hc
      · exact Or.inr rfl
      · exact Or.inl (List.mem_singleton.1 hc)
  obtain ⟨-, hresult, -, hnamed, hseparators⟩ := ofDetails_eq_of_alike
  exact ⟨halike, hresult first second halike, hnamed named .null trivial,
    hseparators named "?;?" rfl honly⟩

end ConnectionSpec
end SqlDialect
