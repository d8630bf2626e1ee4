import SqlDialect.DataModel

/-!
# Reading back what was written as JSON

A value of the data model is written in one way and read in several. Main statement: reading a value
as it was written gives it back, so that writing what was read, however it was spelled, settles on
one JSON value.
-/

namespace SqlDialect

theorem KeyedMap.valueAt?_of_mem {α : Type} {entries : List (String × α)}
    (h : (entries.map Prod.fst).Nodup) {entry : String × α} (hmem : entry ∈ entries) :
    valueAt? entry.1 entries = some entry.2 := by
  induction entries with
  | nil => cases hmem
  | cons first rest ih =>
    obtain ⟨hfirst, hrest⟩ := List.nodup_cons.1 h
    rcases List.mem_cons.1 hmem with rfl | hmem
    · rw [valueAt?, if_pos rfl]
    · have hne : first.1 ≠ entry.1 := fun heq => hfirst (heq ▸ List.mem_map_of_mem hmem)
      rw [valueAt?, if_neg hne, ih hrest hmem]

namespace Json

/-- A record finds the fields that an object was made of, one under each name. -/
theorem record?_ofFields {fields : List (String × Json)} {names : List String}
    (hnames : fields.map Prod.fst = names) (h : names.Nodup) (extra : ExtraItems) :
    (ofFields fields).record? extra names = some (fields.map fun field => some field.2) := by
  subst hnames
  rw [ofFields, record?, List.map_map]
  refine congrArg some (List.map_congr_left fun field hfield => ?_)
  exact (KeyedMap.find?_ofList h field.1).trans (KeyedMap.valueAt?_of_mem h hfield)

theorem toMap?_ofMap (map : KeyedMap Json) : (ofMap map).toMap? = some map := by
  rw [ofMap, toMap?, KeyedMap.ofList_entries]

/-- A list of values is read back if each value is. -/
theorem all?_map {α : Type} {write : α → Json} {read : Json → Option α}
    (h : ∀ x, read (write x) = some x) (values : List α) :
    all? read (values.map write) = some values := by
  induction values with
  | nil => rfl
  | cons value values ih =>
    rw [List.map_cons, all?, h, ih]
    rfl

end Json

/-! ## Values that are read back -/

theorem TableName.ofJson?_toJson (table : TableName) : ofJson? table.toJson = some table := by
  have hfields : table.toJson.record? .refused ["schema", "name"] =
      some [some (.string table.schema), some (.string table.name)] :=
    Json.record?_ofFields (by rfl) (by decide) _
  rw [ofJson?, hfields]

theorem TableSet.ofList_tables (set : TableSet) : ofList set.tables = set := by
  refine ext_mem fun table => ?_
  simp [ofList, empty]

theorem TableSet.ofJson?_toJson (set : TableSet) : ofJson? set.toJson = some set := by
  have hfields : set.toJson.record? .refused ["tables"] =
      some [some (.array (set.tables.map TableName.toJson))] :=
    Json.record?_ofFields (by rfl) (by decide) _
  rw [ofJson?, hfields]
  show (Json.all? TableName.ofJson? (set.tables.map TableName.toJson)).map ofList = some set
  rw [Json.all?_map TableName.ofJson?_toJson, Option.map_some, ofList_tables]

theorem DatabaseRef.ofJson?_toJson (database : DatabaseRef) :
    ofJson? database.toJson = some database := by
  have hfields : database.toJson.record? .refused ["name", "details"] =
      some [some (.string database.name), some (.ofMap database.details)] :=
    Json.record?_ofFields (by rfl) (by decide) _
  rw [ofJson?, hfields]
  show (Json.ofMap database.details).toMap?.map (DatabaseRef.mk database.name) = some database
  rw [Json.toMap?_ofMap, Option.map_some]

theorem Row.ofJson?_toJson (row : Row) : ofJson? row.toJson = some row := by
  have hfields : row.toJson.record? .refused ["columns"] = some [some (.ofMap row.columns)] :=
    Json.record?_ofFields (by rfl) (by decide) _
  rw [ofJson?, hfields]
  show (Json.ofMap row.columns).toMap?.map Row.mk = some row
  rw [Json.toMap?_ofMap, Option.map_some]

theorem CatalogConfig.ofJson?_toJson (extra : Json.ExtraItems) (catalog : CatalogConfig) :
    ofJson? extra catalog.toJson = some catalog := by
  have hfields : catalog.toJson.record? extra ["include_views"] =
      some [some (.bool catalog.includeViews)] :=
    Json.record?_ofFields (by rfl) (by decide) _
  rw [ofJson?, hfields]

namespace Config

/-- What is written of a configuration: everything but the directory that it was read from. -/
def written (config : Config) : Config :=
  { config with projectRoot := "" }

theorem timezoneOfJson?_ofText? (zone : Option String) :
    timezoneOfJson? (Json.ofText? zone) = some zone := by
  cases zone <;> rfl

theorem ofJson?_toJson (config : Config) : ofJson? config.toJson = some config.written := by
  have hfields : config.toJson.record? .refused fieldNames =
      some [some (.ofText? config.reportTimezone), some (.ofMap config.connection),
        some config.catalog.toJson] :=
    Json.record?_ofFields (by rfl) (by decide) _
  rw [ofJson?, hfields]
  simp only [optional, timezoneOfJson?_ofText?, Json.toMap?_ofMap, CatalogConfig.ofJson?_toJson,
    Option.bind_eq_bind, Option.bind_some]
  rfl

/-- A configuration that was read from JSON names no directory. -/
theorem written_of_ofJson? {json : Json} {config : Config} (h : ofJson? json = some config) :
    config.written = config := by
  unfold ofJson? at h
  split at h
  · simp only [Option.bind_eq_bind, Option.bind_eq_some_iff, Option.pure_def,
      Option.some.injEq] at h
    obtain ⟨zone, -, connection, -, catalog, -, rfl⟩ := h
    rfl
  · cases h

end Config

namespace JsonForm

/-- The values of a type are read back from their JSON form, but for what is not written of them. -/
structure RoundTrips (α : Type) [JsonForm α] (written : α → α) : Prop where
  /-- A value is read back from the JSON that it is written as. -/
  read?_write : ∀ x : α, read? (write x) = some (written x)
  /-- Whatever a value was read from, it is read back as it is. -/
  read?_write_of_read? : ∀ (json : Json) (x : α), read? json = some x → read? (write x) = some x
  /-- Whatever a value was read from, it is written as the same JSON from then on. -/
  normalized?_of_normalized? : ∀ json form : Json,
    normalized? α json = some form → normalized? α form = some form

variable {α : Type}

theorem RoundTrips.of_read?_write [JsonForm α] {written : α → α}
    (hwrite : ∀ x : α, read? (write x) = some (written x))
    (hread : ∀ {json : Json} {x : α}, read? json = some x → written x = x) :
    RoundTrips α written := by
  have hagain (json : Json) (x : α) (h : read? json = some x) : read? (write x) = some x := by
    rw [hwrite, hread h]
  refine ⟨hwrite, hagain, ?_⟩
  intro json form h
  obtain ⟨x, hx, rfl⟩ := Option.map_eq_some_iff.1 h
  rw [normalized?, hagain json x hx]
  rfl

/-- Values of which everything is written. -/
theorem RoundTrips.of_lossless [JsonForm α] (h : ∀ x : α, read? (write x) = some x) :
    RoundTrips α id :=
  .of_read?_write h fun _ => rfl

theorem roundTrips_ofTags {tag : α → String} {ofTag? : String → Option α}
    (h : ∀ x, ofTag? (tag x) = some x) : @RoundTrips α (ofTags tag ofTag?) id :=
  @RoundTrips.of_lossless α (ofTags tag ofTag?) h

/-- Every value of the data model is read back from its JSON form, but for the directory of a
configuration; and a value that was read from any JSON is written as one JSON value, from which
nothing else is read and written any more. -/
theorem data_model_round_trips :
    RoundTrips Granularity id ∧ RoundTrips IntervalUnit id ∧ RoundTrips LogicalType id ∧
      RoundTrips PropertyKind id ∧ RoundTrips TableName id ∧ RoundTrips TableSet id ∧
      RoundTrips DatabaseRef id ∧ RoundTrips Row id ∧ RoundTrips CatalogConfig id ∧
      RoundTrips Config Config.written := by
  refine ⟨?_, ?_, ?_, ?_, ?_, ?_, ?_, ?_, ?_, ?_⟩
  · exact roundTrips_ofTags Granularity.ofToken?_token
  · exact roundTrips_ofTags IntervalUnit.ofToken?_token
  · exact roundTrips_ofTags LogicalType.ofTag?_tag
  · exact roundTrips_ofTags PropertyKind.ofTag?_tag
  · exact .of_lossless TableName.ofJson?_toJson
  · exact .of_lossless TableSet.ofJson?_toJson
  · exact .of_lossless DatabaseRef.ofJson?_toJson
  · exact .of_lossless Row.ofJson?_toJson
  · exact .of_lossless (CatalogConfig.ofJson?_toJson .refused)
  · exact .of_read?_write Config.ofJson?_toJson Config.written_of_ofJson?

/-- A set as an array, with a table that is listed twice, out of order and in two spellings. -/
example :
    let orders : Json := .object [("name", .string "orders"), ("schema", .string "sales")]
    let places : Json := .object [("name", .string "places"), ("schema", .string "public")]
    normalized? TableSet
        (.array [.array [orders, places, .array [.string "sales", .string "orders"]]]) =
      some (.object [("tables", .array [places, orders])]) := by
  rfl

end JsonForm
end SqlDialect
