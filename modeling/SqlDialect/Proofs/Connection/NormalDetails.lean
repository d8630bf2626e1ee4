import SqlDialect.Proofs.Connection.Flattening

/-!
# The normal details of a spec

A spec can be turned into connection details again: its host, port and database under the names that
are read first, the options that stand in its address, and the fields that passed through. Main
statement: a spec of connection details is the spec of its normal details, so that defaults, blanks,
the older names and separators in front of the options are dealt with once and for all.
-/

namespace SqlDialect.ConnectionSpec

/-- What comes after the question mark that follows the address of the database. -/
def optionsText? (spec : ConnectionSpec) : Option String :=
  match spec.subname.toList.dropPrefix?
      (address spec.host spec.port spec.database).toList with
  | some ('?' :: options) => some (String.ofList options)
  | _ => none

def normalFields (spec : ConnectionSpec) : List (String × Json) :=
  [("host", .string spec.host), ("port", .nat spec.port.toNat),
    ("dbname", .string spec.database)] ++
    (spec.optionsText?.map fun options => ("additional-options", Json.string options)).toList

/-- The fields that passed through, and the normal fields beside them. -/
def normalDetails (spec : ConnectionSpec) : KeyedMap Json :=
  spec.normalFields.foldl (fun details field => details.insert field.1 field.2) spec.details

theorem nodup_normalFields (spec : ConnectionSpec) :
    (spec.normalFields.map Prod.fst).Nodup := by
  unfold normalFields
  cases spec.optionsText? with
  | none => exact show ["host", "port", "dbname"].Nodup by decide
  | some options =>
    exact show ["host", "port", "dbname", "additional-options"].Nodup by decide

theorem find?_normalDetails (spec : ConnectionSpec) (name : String) :
    spec.normalDetails.find? name =
      (KeyedMap.valueAt? name spec.normalFields).or (spec.details.find? name) :=
  KeyedMap.find?_foldl_insert spec.details spec.nodup_normalFields name

theorem valueAt?_normalFields_options (spec : ConnectionSpec) :
    KeyedMap.valueAt? "additional-options" spec.normalFields =
      spec.optionsText?.map Json.string := by
  unfold normalFields
  cases spec.optionsText? <;> rfl

theorem valueAt?_normalFields_eq_none (spec : ConnectionSpec) {name : String}
    (h : name ∉ ["host", "port", "dbname", "additional-options"]) :
    KeyedMap.valueAt? name spec.normalFields = none := by
  rw [KeyedMap.valueAt?_eq_none_iff]
  intro hmem
  unfold normalFields at hmem
  cases hoptions : spec.optionsText? <;> simp_all

end SqlDialect.ConnectionSpec

namespace SqlDialect.ConnectionReading

open ConnectionParams (readFields readHost readPort readText)
open ConnectionSpec (strippedOptions)

variable {reading : ConnectionReading}

theorem optionsText?_spec (reading : ConnectionReading) :
    reading.spec.optionsText? =
      if reading.options = "" then none else some reading.options := by
  have hdrop : reading.spec.subname.toList.dropPrefix?
      (ConnectionSpec.address reading.host reading.port reading.database).toList =
        some reading.suffix.toList := by
    rw [spec, String.toList_append]
    exact List.dropPrefix?_append_of_beq _ BEq.rfl
  unfold ConnectionSpec.optionsText?
  simp only [show reading.spec.host = reading.host from rfl,
    show reading.spec.port = reading.port from rfl,
    show reading.spec.database = reading.database from rfl, hdrop]
  unfold suffix
  by_cases hoptions : reading.options = ""
  · simp [hoptions]
  · simp [hoptions]

theorem Settled.readHost (h : reading.Settled) :
    readHost (some (.string reading.host)) = .ok reading.host := by
  simp [ConnectionParams.readHost, h.host]

theorem readPort_toNat (port : UInt16) : readPort (some (.nat port.toNat)) = port := by
  have hport : ConnectionParams.portOfInt? (port.toNat : Int) = some port :=
    ConnectionParams.portOfInt?_eq_some_iff.2 rfl
  simp [readPort, Json.nat, hport]

theorem database_readText (text : String) :
    ((readText (some (.string text))).or (readText none)).getD "" = text := by
  unfold readText
  by_cases hempty : text = ""
  · simp [hempty]
  · simp [hempty]

theorem Settled.options_read_again (h : reading.Settled) :
    strippedOptions (readText (reading.spec.optionsText?.map Json.string)) = reading.options := by
  rw [optionsText?_spec]
  by_cases hoptions : reading.options = ""
  · rw [if_pos hoptions, hoptions]
    rfl
  · rw [if_neg hoptions, Option.map_some, readText, if_neg hoptions]
    exact h.options

theorem Settled.passed_normalDetails (h : reading.Settled) :
    (reading.spec.normalDetails.filterKeys fun name => !readFields.contains name) =
      reading.passed := by
  have hsubset : ["host", "port", "dbname", "additional-options"] ⊆ readFields := by decide
  refine KeyedMap.ext_find? fun name => ?_
  rw [KeyedMap.find?_filterKeys]
  by_cases hname : name ∈ readFields
  · simp [hname, h.passed name hname]
  · have hnone : KeyedMap.valueAt? name reading.spec.normalFields = none :=
      ConnectionSpec.valueAt?_normalFields_eq_none _ fun hnormal => hname (hsubset hnormal)
    rw [ConnectionSpec.find?_normalDetails, hnone, Option.none_or]
    simp [hname, spec]

/-- The normal details of a settled reading are read as that reading. -/
theorem Settled.read_again (h : reading.Settled) :
    ofDetails reading.spec.normalDetails = .ok reading := by
  have hread : ∀ name ∈ readFields, reading.spec.normalDetails.find? name =
      KeyedMap.valueAt? name reading.spec.normalFields := by
    intro name hname
    rw [ConnectionSpec.find?_normalDetails, show reading.spec.details = reading.passed from rfl,
      h.passed name hname, Option.or_none]
  have hhost : reading.spec.normalDetails.find? "host" = some (.string reading.host) :=
    hread "host" (by decide)
  have hport : reading.spec.normalDetails.find? "port" = some (.nat reading.port.toNat) :=
    hread "port" (by decide)
  have hdbname : reading.spec.normalDetails.find? "dbname" = some (.string reading.database) :=
    hread "dbname" (by decide)
  have hdb : reading.spec.normalDetails.find? "db" = none := by
    rw [hread "db" (by decide)]
    exact ConnectionSpec.valueAt?_normalFields_eq_none _ (by decide)
  have hoptions : reading.spec.normalDetails.find? "additional-options" =
      reading.spec.optionsText?.map Json.string := by
    rw [hread "additional-options" (by decide)]
    exact ConnectionSpec.valueAt?_normalFields_options _
  refine map_eq_ok_iff.2 ⟨reading.host, ?_, ConnectionReading.ext rfl ?_ ?_ ?_ ?_⟩
  · rw [hhost, h.readHost]
  · rw [hport, readPort_toNat]
  · rw [hdbname, hdb, database_readText]
  · rw [hoptions, h.options_read_again]
  · exact h.passed_normalDetails

end SqlDialect.ConnectionReading

namespace SqlDialect.ConnectionSpec

/-- A spec of connection details is the spec of its normal details. -/
theorem ofDetails_normalDetails {details : KeyedMap Json} {spec : ConnectionSpec}
    (h : ofDetails details = .ok spec) : ofDetails spec.normalDetails = .ok spec := by
  obtain ⟨reading, hread, rfl⟩ := ConnectionReading.ofDetails_eq_ok_iff.1 h
  have hsettled := ConnectionReading.settled_of_ofDetails hread
  exact ConnectionReading.ofDetails_eq_ok_iff.2
    ⟨reading, hsettled.read_again, rfl⟩

/-- A blank host, a port as text, an older name that is a number, and separators in front of the
options. -/
theorem ofDetails_normalDetails_of_defaults :
    ∃ spec : ConnectionSpec,
      ofDetails (.ofList [("additional-options", .string ";?a=1"), ("database", .null),
        ("db", .nat 7), ("dbname", .string ""), ("host", .string " "), ("port", .string "+06000")]) =
          .ok spec ∧
        spec.subname = "//localhost:6000/7?a=1" ∧
        ofDetails spec.normalDetails = .ok spec := by
  obtain ⟨spec, hspec, hsubname⟩ : ∃ spec : ConnectionSpec,
      ofDetails (.ofList [("additional-options", .string ";?a=1"), ("database", .null),
        ("db", .nat 7), ("dbname", .string ""), ("host", .string " "), ("port", .string "+06000")]) =
          .ok spec ∧
        spec.subname = "//localhost:6000/7?a=1" := ⟨_, rfl, rfl⟩
  exact ⟨spec, hspec, hsubname, ofDetails_normalDetails hspec⟩

end SqlDialect.ConnectionSpec
