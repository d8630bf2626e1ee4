import SqlDialect.Proofs.Connection.Flattening
import SqlDialect.Proofs.Json.CompactTexts

/-!
# How connection details come out

Details are read leniently: whatever the other fields hold, only a host that can be no text is
refused. Main statement: details are refused exactly for such a host, and the refusal carries its
compact JSON text; from all others a spec is made, which has every field that is not read unchanged,
a host that is not blank, and the database of the first field that names one.
-/

namespace SqlDialect

/-- A value that is given for a host and can be none. -/
inductive NamesNoHost : Json → Prop where
  | bool (value : Bool) : NamesNoHost (.bool value)
  | array (items : List Json) : NamesNoHost (.array items)
  | object (fields : List (String × Json)) : NamesNoHost (.object fields)

/-- The text that a field holds: a string that is not empty, or a number as it is written. -/
inductive HoldsText : Option Json → String → Prop where
  | string {s : String} (h : s ≠ "") : HoldsText (some (.string s)) s
  | number {n : JsonNumber} {text : String} (h : NumberText n text.toList) :
      HoldsText (some (.number n)) text

namespace ConnectionParams

theorem readHost_eq_error_iff {field : Option Json} {error : RequestError} :
    readHost field = .error error ↔
      ∃ value text, field = some value ∧ NamesNoHost value ∧ CompactText value text.toList ∧
        error = .invalidHost text := by
  constructor
  · intro h
    cases field with
    | none => cases h
    | some value =>
      have hcompact := Json.compactText_iff.2 (Eq.refl value.compact)
      cases value with
      | null => cases h
      | string s => cases h
      | number n => cases h
      | bool b =>
        cases h
        exact ⟨_, _, rfl, .bool b, hcompact, rfl⟩
      | array items =>
        cases h
        exact ⟨_, _, rfl, .array items, hcompact, rfl⟩
      | object fields =>
        cases h
        exact ⟨_, _, rfl, .object fields, hcompact, rfl⟩
  · rintro ⟨value, text, rfl, hvalue, hcompact, rfl⟩
    rw [Json.compactText_iff.1 hcompact]
    cases hvalue with
    | bool b => rfl
    | array items => rfl
    | object fields => rfl

theorem readText_eq_some_iff {field : Option Json} {text : String} :
    readText field = some text ↔ HoldsText field text := by
  constructor
  · intro h
    unfold readText at h
    split at h
    · next s =>
      by_cases hempty : s = ""
      · rw [if_pos hempty] at h
        cases h
      · rw [if_neg hempty] at h
        cases h
        exact .string hempty
    · next n =>
      cases h
      exact .number (JsonNumber.numberText_iff.2 String.toList_ofList)
    · cases h
  · intro h
    cases h with
    | string hne => exact if_neg hne
    | @number n text hnumber =>
      rw [readText, JsonNumber.text, ← JsonNumber.numberText_iff.1 hnumber, String.ofList_toList]

theorem readText_eq_none {field : Option Json} (h : ∀ text, ¬ HoldsText field text) :
    readText field = none := by
  rw [Option.eq_none_iff_forall_ne_some]
  intro text htext
  exact h text (readText_eq_some_iff.1 htext)

end ConnectionParams

namespace ConnectionSpec

theorem ofDetails_eq_error_iff {details : KeyedMap Json} {error : RequestError} :
    ofDetails details = .error error ↔
      ∃ value text, details.find? "host" = some value ∧ NamesNoHost value ∧
        CompactText value text.toList ∧ error = .invalidHost text := by
  rw [← ConnectionReading.map_spec_ofDetails, map_eq_error_iff, ConnectionReading.ofDetails,
    map_eq_error_iff]
  exact ConnectionParams.readHost_eq_error_iff

/-- What a spec has of the details that it is made of. -/
structure CarriesOver (details : KeyedMap Json) (spec : ConnectionSpec) : Prop where
  keys : ∀ name, name ∈ spec.details.keys ↔
    name ∈ details.keys ∧ name ∉ ["host", "port", "dbname", "db", "ssl", "additional-options"]
  values : ∀ name ∈ spec.details.keys, spec.details.find? name = details.find? name
  host : ∃ c ∈ spec.host.toList, Text.isBlank c = false
  dbname : ∀ text, HoldsText (details.find? "dbname") text → spec.database = text
  db : (∀ text, ¬ HoldsText (details.find? "dbname") text) →
    ∀ text, HoldsText (details.find? "db") text → spec.database = text
  unnamed : (∀ text, ¬ HoldsText (details.find? "dbname") text) →
    (∀ text, ¬ HoldsText (details.find? "db") text) → spec.database = ""

theorem carriesOver_of_ofDetails {details : KeyedMap Json} {spec : ConnectionSpec}
    (h : ofDetails details = .ok spec) : CarriesOver details spec := by
  have hkeys := mem_keys_of_ofDetails h
  have hdetails := details_of_ofDetails h
  obtain ⟨reading, hread, rfl⟩ := ConnectionReading.ofDetails_eq_ok_iff.1 h
  have hvisible : ∃ c ∈ reading.host.toList, Text.isBlank c = false := by
    have hblank := (ConnectionReading.settled_of_ofDetails hread).host
    rw [Text.isBlankText, List.all_eq_false] at hblank
    obtain ⟨c, hc, hvisible⟩ := hblank
    exact ⟨c, hc, eq_false_of_ne_true hvisible⟩
  have hdatabase : reading.database =
      ((ConnectionParams.readText (details.find? "dbname")).or
        (ConnectionParams.readText (details.find? "db"))).getD "" := by
    obtain ⟨host, -, rfl⟩ := map_eq_ok_iff.1 hread
    rfl
  refine ⟨hkeys, ?_, hvisible, ?_, ?_, ?_⟩
  · intro name hname
    have hnot := ((hkeys name).1 hname).2
    rw [hdetails, KeyedMap.find?_filterKeys]
    simp [hnot]
  · intro text htext
    show reading.database = text
    rw [hdatabase, ConnectionParams.readText_eq_some_iff.2 htext]
    rfl
  · intro hnone text htext
    show reading.database = text
    rw [hdatabase, ConnectionParams.readText_eq_none hnone,
      ConnectionParams.readText_eq_some_iff.2 htext]
    rfl
  · intro hnone hnone'
    show reading.database = ""
    rw [hdatabase, ConnectionParams.readText_eq_none hnone,
      ConnectionParams.readText_eq_none hnone']
    rfl

/-- Details are refused exactly when a boolean, an array or an object is given for the host, and the
refusal carries the compact JSON text of that value. All other details come to a spec that has the
fields that were not read, and no others, unchanged, a host that is not blank, and the database that
is named first. -/
theorem ofDetails_outcome :
    (∀ (details : KeyedMap Json) (error : RequestError), ofDetails details = .error error ↔
      ∃ value text, details.find? "host" = some value ∧ NamesNoHost value ∧
        CompactText value text.toList ∧ error = .invalidHost text) ∧
    ∀ details : KeyedMap Json,
      (∀ value, details.find? "host" = some value → ¬ NamesNoHost value) →
      ∃ spec, ofDetails details = .ok spec ∧ CarriesOver details spec := by
  refine ⟨fun details error => ofDetails_eq_error_iff, ?_⟩
  intro details hhost
  cases hresult : ofDetails details with
  | error error =>
    obtain ⟨value, -, hvalue, hnone, -⟩ := ofDetails_eq_error_iff.1 hresult
    exact absurd hnone (hhost value hvalue)
  | ok spec => exact ⟨spec, rfl, carriesOver_of_ofDetails hresult⟩

/-- An object for the host is refused beside a port that cannot be used, with its text; with a
number for the host the same port does no harm, and an empty name of the database gives way to the
older one. -/
theorem ofDetails_outcome_beside_unusable_port :
    ofDetails (.ofList [("host", .ofFields [("b", .array [.bool true, .null, .int (-7)]),
        ("a", .string "x\"\n\x01"), ("c", .number (.float (.ofRatio true 3 2)))]),
        ("port", .array [])]) =
      .error (.invalidHost
        "\x7b\"a\":\"x\\\"\\n\\u0001\",\"b\":[true,null,-7],\"c\":-1.5\x7d") ∧
    ∃ spec, ofDetails (.ofList [("db", .nat 7), ("dbname", .string ""), ("host", .nat 10),
        ("port", .array []), ("user", .null)]) = .ok spec ∧
      spec.database = "7" ∧ "user" ∈ spec.details.keys ∧ "port" ∉ spec.details.keys := by
  obtain ⟨hrefused, hmade⟩ := ofDetails_outcome
  refine ⟨(hrefused _ _).2 ⟨_, _, rfl, .object _,
    Json.compactText_iff.2 (by decide +kernel), rfl⟩, ?_⟩
  let details : KeyedMap Json := .ofList [("db", .nat 7), ("dbname", .string ""),
    ("host", .nat 10), ("port", .array []), ("user", .null)]
  have hhost : ∀ value, details.find? "host" = some value → ¬ NamesNoHost value := by
    intro value hvalue hnone
    rw [show details.find? "host" = some (.nat 10) from rfl] at hvalue
    cases hvalue
    cases hnone
  obtain ⟨spec, hspec, hcarries⟩ := hmade details hhost
  have hempty : ∀ text, ¬ HoldsText (details.find? "dbname") text := by
    intro text htext
    rw [show details.find? "dbname" = some (.string "") from rfl] at htext
    cases htext with
    | string hne => exact hne rfl
  have hseven : HoldsText (details.find? "db") "7" :=
    .number (.natural (Text.digitsText_digits 7))
  refine ⟨spec, hspec, hcarries.db hempty "7" hseven, ?_, fun hport => ?_⟩
  · exact (hcarries.keys "user").2 ⟨by decide, by simp⟩
  · exact ((hcarries.keys "port").1 hport).2 (by simp)

end ConnectionSpec
end SqlDialect
