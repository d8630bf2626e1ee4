import Mathlib.Data.List.DropRight
import SqlDialect.Connection.Spec
import SqlDialect.Proofs.Results

/-!
# What connection details are read as

Connection details are an open map, but a spec depends on only five things that are read from them:
the host, the port, the database, the options after the address, and the fields that pass through.
Main statements: two maps of details come to the same result exactly when they are read alike, and
what was read is settled, that is, reading it once more would not change it.
-/

namespace SqlDialect

/-- What connection details are read as. -/
@[ext]
structure ConnectionReading where
  host : String
  port : UInt16
  database : String
  options : String
  passed : KeyedMap Json

namespace ConnectionReading

open ConnectionParams (readFields readHost readPort readText)
open ConnectionSpec (address strippedOptions)

def ofDetails (details : KeyedMap Json) : Except RequestError ConnectionReading :=
  (readHost (details.find? "host")).map fun host =>
    { host
      port := readPort (details.find? "port")
      database :=
        ((readText (details.find? "dbname")).or (readText (details.find? "db"))).getD ""
      options := strippedOptions (readText (details.find? "additional-options"))
      passed := details.filterKeys fun name => !readFields.contains name }

/-- The options as they stand in an address: after a question mark, unless there are none. -/
def suffix (reading : ConnectionReading) : String :=
  if reading.options = "" then "" else "?" ++ reading.options

def spec (reading : ConnectionReading) : ConnectionSpec where
  classname := ConnectionSpec.driverClass
  subprotocol := ConnectionSpec.protocol
  subname := address reading.host reading.port reading.database ++ reading.suffix
  host := reading.host
  port := reading.port
  database := reading.database
  details := reading.passed

/-- What parameters that were not read from details amount to. -/
def ofParams (params : ConnectionParams) : ConnectionReading where
  host := params.host
  port := params.port
  database := params.database
  options := strippedOptions params.additionalOptions
  passed := params.other

theorem spec_ofParams (params : ConnectionParams) :
    (ofParams params).spec = ConnectionSpec.ofParams params := by
  have hsuffix : ∀ base options : String,
      (if options = "" then base else base ++ "?" ++ options) =
        base ++ if options = "" then "" else "?" ++ options := by
    intro base options
    split
    · rw [String.append_empty]
    · rw [String.append_assoc]
  simp only [ConnectionSpec.ofParams, spec, suffix, hsuffix]
  rfl

theorem map_ofParams_ofDetails (details : KeyedMap Json) :
    (ConnectionParams.ofDetails details).map ofParams = ofDetails details := by
  unfold ofDetails ConnectionParams.ofDetails
  cases readHost (details.find? "host") with
  | error e => rfl
  | ok host => rfl

/-- A spec is made of what was read, and of nothing else. -/
theorem map_spec_ofDetails (details : KeyedMap Json) :
    (ofDetails details).map spec = ConnectionSpec.ofDetails details := by
  rw [← map_ofParams_ofDetails, ConnectionSpec.ofDetails]
  cases ConnectionParams.ofDetails details with
  | error e => rfl
  | ok params => exact congrArg Except.ok (spec_ofParams params)

theorem ofDetails_eq_ok_iff {details : KeyedMap Json} {result : ConnectionSpec} :
    ConnectionSpec.ofDetails details = .ok result ↔
      ∃ reading, ofDetails details = .ok reading ∧ reading.spec = result := by
  rw [← map_spec_ofDetails]
  exact map_eq_ok_iff

theorem suffix_cases (reading : ConnectionReading) :
    (reading.options = "" ∧ reading.suffix = "") ∨
      (reading.options ≠ "" ∧ reading.suffix = "?" ++ reading.options) := by
  unfold suffix
  by_cases h : reading.options = ""
  · exact Or.inl ⟨h, if_pos h⟩
  · exact Or.inr ⟨h, if_neg h⟩

theorem drop_suffix (reading : ConnectionReading) :
    String.ofList (reading.suffix.toList.drop 1) = reading.options := by
  rcases reading.suffix_cases with ⟨hempty, hnone⟩ | ⟨-, hsome⟩
  · rw [hnone, hempty]
    rfl
  · rw [hsome, String.toList_append]
    exact String.ofList_toList

theorem suffix_injective {first second : ConnectionReading} (h : first.suffix = second.suffix) :
    first.options = second.options := by
  rw [← first.drop_suffix, h, second.drop_suffix]

/-- Nothing that is read is lost in the spec. -/
theorem spec_injective {first second : ConnectionReading} (h : first.spec = second.spec) :
    first = second := by
  have hhost : first.host = second.host := congrArg ConnectionSpec.host h
  have hport : first.port = second.port := congrArg ConnectionSpec.port h
  have hdatabase : first.database = second.database := congrArg ConnectionSpec.database h
  have hpassed : first.passed = second.passed := congrArg ConnectionSpec.details h
  have hsubname : first.spec.subname = second.spec.subname := congrArg ConnectionSpec.subname h
  have hsuffix : first.suffix = second.suffix := by
    simp only [spec, hhost, hport, hdatabase] at hsubname
    exact (String.append_right_inj _).1 hsubname
  exact ConnectionReading.ext hhost hport hdatabase (suffix_injective hsuffix) hpassed

/-- Details come to the same result exactly when they are read alike. -/
theorem ofDetails_eq_iff {first second : KeyedMap Json} :
    ConnectionSpec.ofDetails first = ConnectionSpec.ofDetails second ↔
      ofDetails first = ofDetails second := by
  rw [← map_spec_ofDetails first, ← map_spec_ofDetails second]
  constructor
  · intro h
    exact eq_of_map_eq (fun _ _ => spec_injective) h
  · intro h
    rw [h]

end ConnectionReading

/-! ## The text of a number -/

section NumberText

theorem Text.exists_visible_digits (n : Nat) : ∃ c ∈ Text.digits n, Text.isBlank c = false := by
  obtain ⟨c, hc⟩ := List.exists_mem_of_ne_nil _ (Text.digits_ne_nil n)
  exact ⟨c, hc, Text.isBlank_eq_false_of_isDigit (Text.isDigit_of_mem_digits hc)⟩

theorem NumberLayout.exists_visible_positionalText (wholeMark : String) (d : Shortest.Digits) :
    ∃ c ∈ positionalText wholeMark d, Text.isBlank c = false := by
  unfold positionalText
  split
  · obtain ⟨c, hc, hvisible⟩ := Text.exists_visible_digits d.coefficient
    exact ⟨c, by simp [hc], hvisible⟩
  · refine ⟨'.', ?_, by decide⟩
    simp only
    split <;> simp

theorem NumberLayout.exists_visible_magnitudeText (layout : NumberLayout) (mantissa : Nat)
    (exponent : Int) :
    ∃ c ∈ layout.magnitudeText mantissa exponent, Text.isBlank c = false := by
  unfold magnitudeText
  split
  · exact ⟨'0', List.mem_cons_self, by decide⟩
  · simp only
    split
    · exact exists_visible_positionalText _ _
    · split
      · exact exists_visible_positionalText _ _
      · exact ⟨'e', by simp [exponentialText], by decide⟩

theorem JsonNumber.exists_visible (number : JsonNumber) :
    ∃ c ∈ number.chars, Text.isBlank c = false := by
  cases number with
  | integer value =>
    obtain ⟨c, hc, hvisible⟩ := Text.exists_visible_digits value.natAbs
    refine ⟨c, ?_, hvisible⟩
    show c ∈ Text.signedDigits value
    unfold Text.signedDigits
    split
    · exact List.mem_cons_of_mem _ hc
    · exact hc
  | float value =>
    cases value with
    | nan => exact ⟨'N', by decide, by decide⟩
    | infinite negative => cases negative <;> exact ⟨'i', by decide, by decide⟩
    | finite negative mantissa exponent normal =>
      obtain ⟨c, hc, hvisible⟩ :=
        NumberLayout.json.exists_visible_magnitudeText mantissa exponent
      exact ⟨c, List.mem_append_right _ hc, hvisible⟩

end NumberText

/-! ## Settled readings -/

namespace ConnectionReading

open ConnectionParams (readFields readHost readPort readText)
open ConnectionSpec (strippedOptions)

theorem isBlankText_of_readHost {field : Option Json} {host : String}
    (h : readHost field = .ok host) : Text.isBlankText host = false := by
  have hdefault : Text.isBlankText ConnectionParams.defaultHost = false := by decide
  unfold readHost at h
  split at h
  · cases h
    exact hdefault
  · cases h
    exact hdefault
  · next s =>
    cases h
    cases hblank : Text.isBlankText s with
    | true => simpa using hdefault
    | false => simpa using hblank
  · next n =>
    cases h
    obtain ⟨c, hc, hvisible⟩ := n.exists_visible
    rw [Text.isBlankText, JsonNumber.text, String.toList_ofList, List.all_eq_false]
    exact ⟨c, hc, by rw [hvisible]; exact Bool.false_ne_true⟩
  · cases h

theorem strippedOptions_strippedOptions (options : Option String) :
    strippedOptions (some (strippedOptions options)) = strippedOptions options := by
  simp only [strippedOptions, Option.getD_some, String.toList_ofList, List.dropWhile_idempotent]

/-- What can still be read from a reading is the reading: no default or cut applies to it. -/
structure Settled (reading : ConnectionReading) : Prop where
  host : Text.isBlankText reading.host = false
  options : strippedOptions (some reading.options) = reading.options
  passed : ∀ name ∈ readFields, reading.passed.find? name = none

theorem settled_of_ofDetails {details : KeyedMap Json} {reading : ConnectionReading}
    (h : ofDetails details = .ok reading) : reading.Settled := by
  obtain ⟨host, hhost, rfl⟩ := map_eq_ok_iff.1 h
  refine ⟨isBlankText_of_readHost hhost, strippedOptions_strippedOptions _, ?_⟩
  intro name hname
  rw [KeyedMap.find?_filterKeys]
  simp [hname]

end ConnectionReading
end SqlDialect
