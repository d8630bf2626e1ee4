import SqlDialect.Proofs.Connection.Readings

/-!
# Specs beside the fields that pass through

A spec as JSON has one space of names for its own six fields and for those that passed through.
Main statement: reading it back gives the same spec exactly when no name is used for both, which is
so for every spec that was read; a spec of connection details meets it unless the details use one of
the four names that are not taken out of them.
-/

namespace SqlDialect

theorem Json.string?_eq_some_iff {json : Json} {s : String} :
    json.string? = some s ↔ json = .string s := by
  cases json <;> simp [Json.string?]

theorem Json.integer?_eq_some_iff {json : Json} {n : Int} :
    json.integer? = some n ↔ json = .int n := by
  unfold Json.integer? Json.int
  split
  · simp
  · next hother =>
    constructor
    · intro h
      cases h
    · intro h
      exact absurd h (hother n)

theorem ConnectionParams.portOfInt?_eq_some_iff {n : Int} {port : UInt16} :
    portOfInt? n = some port ↔ n = port.toNat := by
  have hport := port.toNat_lt
  unfold portOfInt?
  constructor
  · intro h
    split at h
    · next hrange =>
      cases h
      have hnat : n.toNat < 65536 := by omega
      rw [UInt16.toNat_ofNat_of_lt' hnat]
      omega
    · cases h
  · rintro rfl
    rw [if_pos (by omega), Int.toNat_natCast, UInt16.ofNat_toNat]

namespace ConnectionSpec

/-- What a spec that is read has to do with the fields of its JSON form. -/
theorem ofJson?_eq_some_iff {json : Json} {spec : ConnectionSpec} :
    ofJson? json = some spec ↔
      ∃ map, json.toMap? = some map ∧
        map.find? "classname" = some (.string spec.classname) ∧
        map.find? "subprotocol" = some (.string spec.subprotocol) ∧
        map.find? "subname" = some (.string spec.subname) ∧
        map.find? "host" = some (.string spec.host) ∧
        map.find? "port" = some (.nat spec.port.toNat) ∧
        map.find? "database" = some (.string spec.database) ∧
        map.filterKeys (fun name => !fieldNames.contains name) = spec.details := by
  unfold ofJson?
  simp only [Option.bind_eq_bind, Option.bind_eq_some_iff, Option.pure_def, Option.some.injEq,
    Json.string?_eq_some_iff, Json.integer?_eq_some_iff, ConnectionParams.portOfInt?_eq_some_iff]
  constructor
  · rintro ⟨map, hmap, _, hclass, _, rfl, _, hprotocol, _, rfl, _, hname, _, rfl, _, hhost, _, rfl,
      _, hport, _, rfl, _, rfl, _, hdatabase, _, rfl, rfl⟩
    exact ⟨map, hmap, hclass, hprotocol, hname, hhost, hport, hdatabase, rfl⟩
  · rintro ⟨map, hmap, hclass, hprotocol, hname, hhost, hport, hdatabase, hdetails⟩
    refine ⟨map, hmap, _, hclass, _, rfl, _, hprotocol, _, rfl, _, hname, _, rfl, _, hhost, _, rfl,
      _, hport, _, rfl, _, rfl, _, hdatabase, _, rfl, ?_⟩
    rw [hdetails]

/-- Whether no field that passed through has the name of a field of the spec. -/
def Unambiguous (spec : ConnectionSpec) : Prop :=
  ∀ name ∈ spec.details.keys, name ∉ fieldNames

theorem Unambiguous.find?_eq_none {spec : ConnectionSpec} (h : spec.Unambiguous) {name : String}
    (hname : name ∈ fieldNames) : spec.details.find? name = none :=
  KeyedMap.find?_eq_none_iff.2 fun hkey => h name hkey hname

/-- A spec that is read has no field twice: the six fields do not pass through. -/
theorem unambiguous_of_ofJson? {json : Json} {spec : ConnectionSpec}
    (h : ofJson? json = some spec) : spec.Unambiguous := by
  obtain ⟨map, -, -, -, -, -, -, -, hdetails⟩ := ofJson?_eq_some_iff.1 h
  intro name hname hfield
  have hnone : spec.details.find? name = none := by
    rw [← hdetails, KeyedMap.find?_filterKeys]
    simp [hfield]
  exact KeyedMap.find?_eq_none_iff.1 hnone hname

theorem toMap?_toJson (spec : ConnectionSpec) :
    spec.toJson.toMap? = some (.ofList spec.fields) := by
  simp [toJson, Json.ofFields, Json.toMap?]

/-- The six fields of a spec alone. -/
def ownFields (spec : ConnectionSpec) : List (String × Json) :=
  [("classname", .string spec.classname), ("subprotocol", .string spec.subprotocol),
    ("subname", .string spec.subname), ("host", .string spec.host),
    ("port", .nat spec.port.toNat), ("database", .string spec.database)]

theorem nodup_ownFields (spec : ConnectionSpec) : (spec.ownFields.map Prod.fst).Nodup :=
  show fieldNames.Nodup by decide

theorem find?_fields (spec : ConnectionSpec) (name : String) :
    (KeyedMap.ofList spec.fields).find? name =
      (spec.details.find? name).or (KeyedMap.valueAt? name spec.ownFields) :=
  KeyedMap.find?_ofList_append spec.nodup_ownFields spec.details name

/-- Nothing of a spec is lost when no name is used twice. -/
theorem ofJson?_toJson {spec : ConnectionSpec} (h : spec.Unambiguous) :
    ofJson? spec.toJson = some spec := by
  have hown : ∀ name ∈ fieldNames, (KeyedMap.ofList spec.fields).find? name =
      KeyedMap.valueAt? name spec.ownFields := by
    intro name hname
    rw [find?_fields, h.find?_eq_none hname, Option.none_or]
  refine ofJson?_eq_some_iff.2 ⟨_, spec.toMap?_toJson, hown _ (by decide), hown _ (by decide),
    hown _ (by decide), hown _ (by decide), hown _ (by decide), hown _ (by decide), ?_⟩
  -- the fields that are left are those that passed through, for the other six are taken out
  refine KeyedMap.ext_find? fun name => ?_
  rw [KeyedMap.find?_filterKeys]
  by_cases hname : name ∈ fieldNames
  · simp [hname, h.find?_eq_none hname]
  · have hnone : KeyedMap.valueAt? name spec.ownFields = none :=
      KeyedMap.valueAt?_eq_none_iff.2 hname
    simp [hname, find?_fields, hnone]

theorem ofJson?_toJson_iff {spec : ConnectionSpec} :
    ofJson? spec.toJson = some spec ↔ spec.Unambiguous :=
  ⟨unambiguous_of_ofJson?, ofJson?_toJson⟩

/-! ## Specs of connection details -/

theorem details_of_ofDetails {details : KeyedMap Json} {spec : ConnectionSpec}
    (h : ofDetails details = .ok spec) :
    spec.details = details.filterKeys fun name => !ConnectionParams.readFields.contains name := by
  obtain ⟨reading, hread, rfl⟩ := ConnectionReading.ofDetails_eq_ok_iff.1 h
  obtain ⟨host, -, rfl⟩ := map_eq_ok_iff.1 hread
  rfl

theorem mem_keys_of_ofDetails {details : KeyedMap Json} {spec : ConnectionSpec}
    (h : ofDetails details = .ok spec) (name : String) :
    name ∈ spec.details.keys ↔ name ∈ details.keys ∧ name ∉ ConnectionParams.readFields := by
  rw [details_of_ofDetails h, KeyedMap.mem_keys_filterKeys]
  simp

/-- The names of fields of a spec that pass through when they are in connection details. -/
def openNames : List String :=
  ["classname", "subprotocol", "subname", "database"]

theorem openNames_subset : ∀ name ∈ openNames,
    name ∈ fieldNames ∧ name ∉ ConnectionParams.readFields := by
  decide

theorem openNames_or_read : ∀ name ∈ fieldNames,
    name ∈ openNames ∨ name ∈ ConnectionParams.readFields := by
  decide

theorem unambiguous_iff_of_ofDetails {details : KeyedMap Json} {spec : ConnectionSpec}
    (h : ofDetails details = .ok spec) :
    spec.Unambiguous ↔ ∀ name ∈ details.keys, name ∉ openNames := by
  unfold Unambiguous
  simp only [mem_keys_of_ofDetails h]
  constructor
  · intro hspec name hname hopen
    obtain ⟨hfield, hread⟩ := openNames_subset name hopen
    exact hspec name ⟨hname, hread⟩ hfield
  · rintro hdetails name ⟨hname, hread⟩ hfield
    rcases openNames_or_read name hfield with hopen | hread'
    · exact hdetails name hname hopen
    · exact hread hread'

/-- A spec is read back from its JSON form exactly when no field that passed through is named like
one of its own six; a spec that was read always is, and a spec of connection details is unless they
have one of the four names that are not taken out of them. -/
theorem read_back_iff :
    (∀ spec : ConnectionSpec, ofJson? spec.toJson = some spec ↔
      ∀ name ∈ spec.details.keys,
        name ∉ ["classname", "subprotocol", "subname", "host", "port", "database"]) ∧
    (∀ (json : Json) (spec : ConnectionSpec), ofJson? json = some spec →
      (∀ name ∈ spec.details.keys,
        name ∉ ["classname", "subprotocol", "subname", "host", "port", "database"]) ∧
      ofJson? spec.toJson = some spec) ∧
    ∀ (details : KeyedMap Json) (spec : ConnectionSpec), ofDetails details = .ok spec →
      ("host" ∉ spec.details.keys ∧ "port" ∉ spec.details.keys) ∧
      (ofJson? spec.toJson = some spec ↔
        ∀ name ∈ details.keys, name ∉ ["classname", "subprotocol", "subname", "database"]) := by
  refine ⟨fun spec => ofJson?_toJson_iff, fun json spec h => ?_, fun details spec h => ?_⟩
  · have hunambiguous := unambiguous_of_ofJson? h
    exact ⟨hunambiguous, ofJson?_toJson hunambiguous⟩
  · refine ⟨⟨fun hhost => ?_, fun hport => ?_⟩, ?_⟩
    · exact ((mem_keys_of_ofDetails h _).1 hhost).2 (by decide)
    · exact ((mem_keys_of_ofDetails h _).1 hport).2 (by decide)
    · rw [ofJson?_toJson_iff]
      exact unambiguous_iff_of_ofDetails h

/-- A class name among the details takes the place of the class of the driver. -/
theorem not_read_back_of_classname :
    ∃ spec : ConnectionSpec,
      ofDetails (.ofList [("classname", .string "a.b.C"), ("user", .string "c")]) = .ok spec ∧
        ofJson? spec.toJson ≠ some spec := by
  let details : KeyedMap Json := .ofList [("classname", .string "a.b.C"), ("user", .string "c")]
  obtain ⟨spec, hspec⟩ : ∃ spec, ofDetails details = .ok spec := ⟨_, rfl⟩
  refine ⟨spec, hspec, fun hread => ?_⟩
  have hnames := (read_back_iff.2.2 details spec hspec).2.1 hread
  exact hnames "classname" (by decide) (by decide)

end ConnectionSpec
end SqlDialect
