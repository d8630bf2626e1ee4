/-!
# Maps with text keys

A finite map from texts to values, kept as a list of entries in strictly ascending order of the
keys, code point by code point. Two maps with the same look-ups are equal, so the order in which
entries were put in can be seen nowhere.
-/

namespace SqlDialect

/-- A finite map from texts to values. -/
structure KeyedMap (α : Type) where
  /-- The entries, by ascending key. -/
  entries : List (String × α)
  /-- No key occurs twice and the order is ascending. -/
  ascending : entries.Pairwise fun a b => a.1 < b.1

namespace KeyedMap

variable {α : Type}

/-! ## Entries -/

/-- Puts an entry in its place, instead of an entry of the same key if there is one. -/
def insertEntry (key : String) (value : α) : List (String × α) → List (String × α)
  | [] => [(key, value)]
  | entry :: rest =>
    if key < entry.1 then (key, value) :: entry :: rest
    else if entry.1 < key then entry :: insertEntry key value rest
    else (key, value) :: rest

/-- The value of the first entry with this key. -/
def valueAt? (key : String) : List (String × α) → Option α
  | [] => none
  | entry :: rest => if entry.1 = key then some entry.2 else valueAt? key rest

theorem mem_insertEntry {key : String} {value : α} {entries : List (String × α)}
    {entry : String × α} (h : entry ∈ insertEntry key value entries) :
    entry = (key, value) ∨ entry ∈ entries := by
  induction entries with
  | nil => simpa [insertEntry] using h
  | cons e rest ih =>
    unfold insertEntry at h
    split at h
    · simpa using h
    · split at h
      · rcases List.mem_cons.1 h with h | h
        · simp [h]
        · rcases ih h with h | h <;> simp [h]
      · rcases List.mem_cons.1 h with h | h <;> simp [h]

theorem eq_of_not_lt {a b : String} (hab : ¬ a < b) (hba : ¬ b < a) : a = b :=
  String.le_antisymm (String.not_lt.1 hba) (String.not_lt.1 hab)

theorem pairwise_insertEntry (key : String) (value : α) {entries : List (String × α)}
    (h : entries.Pairwise fun a b => a.1 < b.1) :
    (insertEntry key value entries).Pairwise fun a b => a.1 < b.1 := by
  induction entries with
  | nil => simp [insertEntry]
  | cons e rest ih =>
    obtain ⟨hfirst, hrest⟩ := List.pairwise_cons.1 h
    unfold insertEntry
    split
    · next hlt =>
      refine List.pairwise_cons.2 ⟨fun x hx => ?_, h⟩
      rcases List.mem_cons.1 hx with rfl | hx
      · exact hlt
      · exact String.lt_trans hlt (hfirst x hx)
    · next hnlt =>
      split
      · next hgt =>
        refine List.pairwise_cons.2 ⟨fun x hx => ?_, ih hrest⟩
        rcases mem_insertEntry hx with rfl | hx
        · exact hgt
        · exact hfirst x hx
      · next hngt =>
        have hkey : e.1 = key := eq_of_not_lt hngt hnlt
        exact List.pairwise_cons.2 ⟨fun x hx => hkey ▸ hfirst x hx, hrest⟩

theorem valueAt?_insertEntry (key : String) (value : α) (other : String)
    (entries : List (String × α)) :
    valueAt? other (insertEntry key value entries) =
      if key = other then some value else valueAt? other entries := by
  induction entries with
  | nil => simp [insertEntry, valueAt?]
  | cons e rest ih =>
    unfold insertEntry
    split
    · simp [valueAt?]
    · next hnlt =>
      split
      · next hgt =>
        have hne : e.1 ≠ key := fun heq => String.lt_irrefl key (heq ▸ hgt)
        by_cases hother : e.1 = other
        · have : key ≠ other := fun heq => hne (hother.trans heq.symm)
          simp [valueAt?, hother, this]
        · simp [valueAt?, hother, ih]
      · next hngt =>
        have hkey : e.1 = key := eq_of_not_lt hngt hnlt
        by_cases hother : key = other <;> simp [valueAt?, hkey, hother]

theorem valueAt?_eq_none_of_lt {key : String} {entries : List (String × α)}
    (h : ∀ e ∈ entries, key < e.1) : valueAt? key entries = none := by
  induction entries with
  | nil => rfl
  | cons e rest ih =>
    have hne : e.1 ≠ key := fun heq => by
      have := h e (by simp)
      rw [heq] at this
      exact String.lt_irrefl key this
    simp [valueAt?, hne, ih fun x hx => h x (by simp [hx])]

/-- Entry lists in ascending order with the same look-ups are equal. -/
theorem entries_ext {first second : List (String × α)}
    (hfirst : first.Pairwise fun a b => a.1 < b.1)
    (hsecond : second.Pairwise fun a b => a.1 < b.1)
    (h : ∀ key, valueAt? key first = valueAt? key second) : first = second := by
  induction first generalizing second with
  | nil =>
    cases second with
    | nil => rfl
    | cons e rest => simpa [valueAt?] using h e.1
  | cons a as ih =>
    cases second with
    | nil => simpa [valueAt?] using h a.1
    | cons b bs =>
      obtain ⟨ha, has⟩ := List.pairwise_cons.1 hfirst
      obtain ⟨hb, hbs⟩ := List.pairwise_cons.1 hsecond
      have hkeys : a.1 = b.1 := by
        refine eq_of_not_lt (fun hlt => ?_) (fun hlt => ?_)
        · have habsent : valueAt? a.1 (b :: bs) = none :=
            valueAt?_eq_none_of_lt fun x hx => by
              rcases List.mem_cons.1 hx with rfl | hx
              · exact hlt
              · exact String.lt_trans hlt (hb x hx)
          have := h a.1
          rw [habsent] at this
          simp [valueAt?] at this
        · have habsent : valueAt? b.1 (a :: as) = none :=
            valueAt?_eq_none_of_lt fun x hx => by
              rcases List.mem_cons.1 hx with rfl | hx
              · exact hlt
              · exact String.lt_trans hlt (ha x hx)
          have := h b.1
          rw [habsent] at this
          simp [valueAt?] at this
      have hvalues : a.2 = b.2 := by
        have := h a.1
        simpa [valueAt?, hkeys] using this
      have htails : as = bs := by
        refine ih has hbs fun key => ?_
        by_cases hkey : a.1 = key
        · rw [valueAt?_eq_none_of_lt (by simpa [← hkey] using ha),
            valueAt?_eq_none_of_lt (by simpa [← hkey, hkeys] using hb)]
        · have hkey' : b.1 ≠ key := fun heq => hkey (hkeys.trans heq)
          simpa [valueAt?, hkey, hkey'] using h key
      rw [htails, Prod.ext hkeys hvalues]

/-! ## Maps -/

/-- The map without entries. -/
def empty : KeyedMap α := ⟨[], List.Pairwise.nil⟩

instance : Inhabited (KeyedMap α) := ⟨empty⟩

/-- The value under a key. -/
def find? (map : KeyedMap α) (key : String) : Option α :=
  valueAt? key map.entries

/-- Whether there is a value under a key. -/
def contains (map : KeyedMap α) (key : String) : Bool :=
  (map.find? key).isSome

/-- The map with a value put under a key, in the place of an earlier one. -/
def insert (map : KeyedMap α) (key : String) (value : α) : KeyedMap α :=
  ⟨insertEntry key value map.entries, pairwise_insertEntry key value map.ascending⟩

/-- The map of a list of entries; of two entries with one key the later counts. -/
def ofList (entries : List (String × α)) : KeyedMap α :=
  entries.foldl (fun map entry => map.insert entry.1 entry.2) empty

/-- The entries whose keys pass a test. -/
def filterKeys (map : KeyedMap α) (keep : String → Bool) : KeyedMap α :=
  ⟨map.entries.filter fun entry => keep entry.1, map.ascending.filter _⟩

/-- The keys, ascending. -/
def keys (map : KeyedMap α) : List String :=
  map.entries.map Prod.fst

/-- Whether there are no entries. -/
def isEmpty (map : KeyedMap α) : Bool :=
  map.entries.isEmpty

/-- Maps with the same look-ups are equal. -/
theorem ext_find? {first second : KeyedMap α}
    (h : ∀ key, first.find? key = second.find? key) : first = second := by
  cases first with
  | mk fe fa =>
    cases second with
    | mk se sa =>
      have : fe = se := entries_ext fa sa h
      subst this
      rfl

@[simp] theorem find?_empty (key : String) : (empty : KeyedMap α).find? key = none := rfl

theorem find?_insert (map : KeyedMap α) (key : String) (value : α) (other : String) :
    (map.insert key value).find? other = if key = other then some value else map.find? other :=
  valueAt?_insertEntry key value other map.entries

@[simp] theorem find?_insert_self (map : KeyedMap α) (key : String) (value : α) :
    (map.insert key value).find? key = some value := by
  simp [find?_insert]

theorem find?_insert_of_ne (map : KeyedMap α) {key other : String} (value : α)
    (h : key ≠ other) : (map.insert key value).find? other = map.find? other := by
  simp [find?_insert, h]

theorem valueAt?_filter (keep : String → Bool) (key : String) (entries : List (String × α)) :
    valueAt? key (entries.filter fun entry => keep entry.1) =
      if keep key then valueAt? key entries else none := by
  induction entries with
  | nil => simp [valueAt?]
  | cons e rest ih =>
    by_cases hkey : e.1 = key
    · subst hkey
      cases hkeep : keep e.1 with
      | true => simp [hkeep, valueAt?]
      | false => simpa [hkeep] using ih
    · cases hkeep : keep e.1 with
      | true => simp [hkeep, valueAt?, hkey, ih]
      | false => simp [hkeep, valueAt?, hkey, ih]

theorem find?_filterKeys (map : KeyedMap α) (keep : String → Bool) (key : String) :
    (map.filterKeys keep).find? key = if keep key then map.find? key else none :=
  valueAt?_filter keep key map.entries

theorem valueAt?_eq_none_iff {key : String} {entries : List (String × α)} :
    valueAt? key entries = none ↔ key ∉ entries.map Prod.fst := by
  induction entries with
  | nil => simp [valueAt?]
  | cons entry rest ih =>
    by_cases hkey : entry.1 = key
    · simp [valueAt?, hkey]
    · have hkey' : ¬ key = entry.1 := fun heq => hkey heq.symm
      simp [valueAt?, hkey, hkey', ih]

theorem find?_eq_none_iff {map : KeyedMap α} {key : String} :
    map.find? key = none ↔ key ∉ map.keys :=
  valueAt?_eq_none_iff

theorem nodup_keys (map : KeyedMap α) : map.keys.Nodup := by
  unfold keys List.Nodup
  rw [List.pairwise_map]
  refine map.ascending.imp fun {a b} hlt heq => ?_
  rw [heq] at hlt
  exact String.lt_irrefl _ hlt

/-- Entries that are put into a map count before those that are there already. -/
theorem find?_foldl_insert (map : KeyedMap α) {entries : List (String × α)}
    (h : (entries.map Prod.fst).Nodup) (key : String) :
    (entries.foldl (fun map entry => map.insert entry.1 entry.2) map).find? key =
      (valueAt? key entries).or (map.find? key) := by
  induction entries generalizing map with
  | nil => rfl
  | cons entry rest ih =>
    obtain ⟨hfirst, hrest⟩ := List.nodup_cons.1 h
    rw [List.foldl_cons, ih _ hrest, find?_insert, valueAt?]
    split
    · next hkey =>
      rw [valueAt?_eq_none_iff.2 (hkey ▸ hfirst)]
      rfl
    · rfl

theorem find?_ofList {entries : List (String × α)} (h : (entries.map Prod.fst).Nodup)
    (key : String) : (ofList entries).find? key = valueAt? key entries := by
  rw [ofList, find?_foldl_insert _ h, find?_empty, Option.or_none]

/-- The entries of a map count before the fields that they are listed after. -/
theorem find?_ofList_append {fields : List (String × α)} (h : (fields.map Prod.fst).Nodup)
    (map : KeyedMap α) (key : String) :
    (ofList (fields ++ map.entries)).find? key = (map.find? key).or (valueAt? key fields) := by
  rw [← find?_ofList h, ofList, List.foldl_append]
  exact find?_foldl_insert _ map.nodup_keys key

/-- A map is the map of its entries. -/
@[simp] theorem ofList_entries (map : KeyedMap α) : ofList map.entries = map :=
  ext_find? fun key => find?_ofList map.nodup_keys key

theorem mem_keys_filterKeys {map : KeyedMap α} {keep : String → Bool} {key : String} :
    key ∈ (map.filterKeys keep).keys ↔ key ∈ map.keys ∧ keep key = true := by
  simp only [keys, filterKeys, List.mem_map, List.mem_filter]
  constructor
  · rintro ⟨entry, ⟨hmem, hkeep⟩, rfl⟩
    exact ⟨⟨entry, hmem, rfl⟩, hkeep⟩
  · rintro ⟨⟨entry, hmem, rfl⟩, hkeep⟩
    exact ⟨entry, ⟨hmem, hkeep⟩, rfl⟩

end KeyedMap
end SqlDialect
