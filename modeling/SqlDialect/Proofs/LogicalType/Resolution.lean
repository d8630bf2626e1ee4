import Mathlib.Data.List.Forall2
import Mathlib.Data.List.Nodup
import Mathlib.Tactic.SplitIfs
import SqlDialect.LogicalType.NativeName
import SqlDialect.Text.Blank

/-!
# Resolution of native names

A name is looked for twice in a table, first as it is written and then without regard to case. No
two names of the engine's table have the same letters, so whatever the first search finds the second
one would find too, and the order of the table does not matter. Main statement: the type of a name
is that of the one entry with the same letters, and unknown if there is none.
-/

namespace SqlDialect

/-! ## Letters in two cases -/

/-- Whether two characters are equal or one letter of ASCII in its two cases. -/
def SameLetter (c d : Char) : Prop :=
  c = d ∨ ∃ i < 26, c.toNat = 65 + i ∧ d.toNat = 97 + i ∨ c.toNat = 97 + i ∧ d.toNat = 65 + i

theorem isAlpha_iff_toNat {c : Char} :
    c.isAlpha = true ↔ 65 ≤ c.toNat ∧ c.toNat ≤ 90 ∨ 97 ≤ c.toNat ∧ c.toNat ≤ 122 := by
  have hupper : c.isUpper = true ↔ 65 ≤ c.toNat ∧ c.toNat ≤ 90 := by
    show decide (65 ≤ c.val ∧ c.val ≤ 90) = true ↔ _
    rw [decide_eq_true_eq, UInt32.le_iff_toNat_le, UInt32.le_iff_toNat_le]
    rfl
  have hlower : c.isLower = true ↔ 97 ≤ c.toNat ∧ c.toNat ≤ 122 := by
    show (decide (97 ≤ c.val) && decide (c.val ≤ 122)) = true ↔ _
    rw [Bool.and_eq_true, decide_eq_true_eq, decide_eq_true_eq, UInt32.le_iff_toNat_le,
      UInt32.le_iff_toNat_le]
    rfl
  show (c.isUpper || c.isLower) = true ↔ _
  rw [Bool.or_eq_true, hupper, hlower]

theorem toNat_toLower (c : Char) :
    c.toLower.toNat = if 65 ≤ c.toNat ∧ c.toNat ≤ 90 then c.toNat + 32 else c.toNat := by
  have hiff : (c.val ≥ 'A'.val ∧ c.val ≤ 'Z'.val) ↔ 65 ≤ c.toNat ∧ c.toNat ≤ 90 := by
    simp [UInt32.le_iff_toNat_le]
  unfold Char.toLower
  by_cases h : 65 ≤ c.toNat ∧ c.toNat ≤ 90
  · have hstep : ('a'.val - 'A'.val).toNat = 32 := rfl
    rw [if_pos h, dif_pos (hiff.2 h), Char.toNat_mk, UInt32.toNat_add, Char.toNat_val]
    omega
  · rw [if_neg h, dif_neg (hiff.not.2 h)]

theorem sameLetter_iff {c d : Char} : SameLetter c d ↔ c.toLower = d.toLower := by
  unfold SameLetter
  rw [← Char.toNat_inj, ← Char.toNat_inj, toNat_toLower, toNat_toLower]
  constructor
  · rintro (h | ⟨i, hi, h⟩)
    · rw [h]
    · split_ifs <;> omega
  · intro h
    by_cases hc : 65 ≤ c.toNat ∧ c.toNat ≤ 90
    · by_cases hd : 65 ≤ d.toNat ∧ d.toNat ≤ 90
      · rw [if_pos hc, if_pos hd] at h
        exact Or.inl (by omega)
      · rw [if_pos hc, if_neg hd] at h
        exact Or.inr ⟨c.toNat - 65, by omega, Or.inl ⟨by omega, by omega⟩⟩
    · by_cases hd : 65 ≤ d.toNat ∧ d.toNat ≤ 90
      · rw [if_neg hc, if_pos hd] at h
        exact Or.inr ⟨d.toNat - 65, by omega, Or.inr ⟨by omega, by omega⟩⟩
      · rw [if_neg hc, if_neg hd] at h
        exact Or.inl h

/-- Whether two names have the same letters, one after the other. -/
def SameName (a b : String) : Prop :=
  List.Forall₂ SameLetter a.toList b.toList

theorem sameName_iff {a b : String} :
    SameName a b ↔ a.toList.map Char.toLower = b.toList.map Char.toLower := by
  rw [← List.forall₂_eq_eq_eq, List.forall₂_map_left_iff, List.forall₂_map_right_iff]
  unfold SameName
  constructor
  · exact fun h => h.imp fun _ _ => sameLetter_iff.1
  · exact fun h => h.imp fun _ _ => sameLetter_iff.2

theorem sameIgnoringCase_iff {a b : String} : sameIgnoringCase a b = true ↔ SameName a b := by
  rw [sameName_iff, sameIgnoringCase, decide_eq_true_eq]

instance (a b : String) : Decidable (SameName a b) :=
  decidable_of_iff _ sameIgnoringCase_iff

theorem SameName.symm {a b : String} (h : SameName a b) : SameName b a :=
  sameName_iff.2 (sameName_iff.1 h).symm

theorem SameName.trans {a b c : String} (hab : SameName a b) (hbc : SameName b c) : SameName a c :=
  sameName_iff.2 ((sameName_iff.1 hab).trans (sameName_iff.1 hbc))

namespace LogicalType

variable {table : List (String × LogicalType)} {name name' : String} {t t' : LogicalType}

/-! ## Tables of names -/

/-- The type of a name in a table that is searched once, without regard to case. -/
def lookUp (table : List (String × LogicalType)) (name : String) : LogicalType :=
  match table.find? fun entry => sameIgnoringCase entry.1 name with
  | some entry => entry.2
  | none => .unknown

/-- What a name stands for, whatever the order of the table. -/
inductive Resolves (table : List (String × LogicalType)) (name : String) : LogicalType → Prop
  | listed {entry : String × LogicalType} (hmem : entry ∈ table) (hname : SameName entry.1 name) :
      Resolves table name entry.2
  | unlisted (h : ∀ entry ∈ table, ¬ SameName entry.1 name) : Resolves table name .unknown

/-- Whether the entries of a table can be told apart by the letters of their names. -/
def DistinctNames (table : List (String × LogicalType)) : Prop :=
  ∀ entry ∈ table, ∀ entry' ∈ table, SameName entry.1 entry'.1 → entry = entry'

theorem resolves_lookUp (table : List (String × LogicalType)) (name : String) :
    Resolves table name (lookUp table name) := by
  unfold lookUp
  split
  · next entry hfound =>
    have hname := List.find?_some hfound
    exact .listed (List.mem_of_find?_eq_some hfound) (sameIgnoringCase_iff.1 hname)
  · next hnone =>
    refine .unlisted fun entry hmem hname => ?_
    exact List.find?_eq_none.1 hnone entry hmem (sameIgnoringCase_iff.2 hname)

theorem resolves_resolveIn (table : List (String × LogicalType)) (name : String) :
    Resolves table name (resolveIn table name) := by
  unfold resolveIn
  split
  · next entry hfound =>
    have hname := List.find?_some hfound
    rw [decide_eq_true_eq] at hname
    exact .listed (List.mem_of_find?_eq_some hfound) (sameName_iff.2 (by rw [hname]))
  · exact resolves_lookUp table name

theorem Resolves.unique (hdistinct : DistinctNames table) (h : Resolves table name t)
    (h' : Resolves table name t') : t = t' := by
  cases h with
  | listed hmem hname =>
    cases h' with
    | listed hmem' hname' => rw [hdistinct _ hmem _ hmem' (hname.trans hname'.symm)]
    | unlisted hnone => exact absurd hname (hnone _ hmem)
  | unlisted hnone =>
    cases h' with
    | listed hmem' hname' => exact absurd hname' (hnone _ hmem')
    | unlisted _ => rfl

/-- Only the members of a table count. -/
theorem Resolves.of_subset {table' : List (String × LogicalType)} (h : Resolves table name t)
    (hsubset : table ⊆ table') (hsubset' : table' ⊆ table) : Resolves table' name t := by
  cases h with
  | listed hmem hname => exact .listed (hsubset hmem) hname
  | unlisted hnone => exact .unlisted fun entry hmem => hnone entry (hsubset' hmem)

theorem Resolves.of_sameName (h : Resolves table name t) (hname : SameName name name') :
    Resolves table name' t := by
  cases h with
  | listed hmem hentry => exact .listed hmem (hentry.trans hname)
  | unlisted hnone =>
    exact .unlisted fun entry hmem hentry => hnone entry hmem (hentry.trans hname.symm)

/-! ## The table of the engine -/

/-- The letters of a name without its blanks, in lower case. -/
def bareLetters (cs : List Char) : List Char :=
  (cs.filter fun c => !Text.isBlank c).map Char.toLower

theorem isBlank_eq_of_sameLetter {c d : Char} (h : SameLetter c d) :
    Text.isBlank c = Text.isBlank d := by
  rcases h with rfl | ⟨i, hi, h⟩
  · rfl
  · rw [Text.isBlank_eq_false_of_ascii (c := c) (by omega) (by omega),
      Text.isBlank_eq_false_of_ascii (c := d) (by omega) (by omega)]

theorem bareLetters_eq {cs ds : List Char} (h : List.Forall₂ SameLetter cs ds) :
    bareLetters cs = bareLetters ds := by
  unfold bareLetters
  rw [← List.forall₂_eq_eq_eq, List.forall₂_map_left_iff, List.forall₂_map_right_iff]
  have hfilter := List.rel_filter (R := SameLetter) (p := fun c => !Text.isBlank c)
    (q := fun c => !Text.isBlank c) (fun c d hcd => by simp [isBlank_eq_of_sameLetter hcd]) h
  exact hfilter.imp fun c d hcd => sameLetter_iff.1 hcd

/-- The names of the engine differ even when their blanks are left out. -/
theorem nodup_bareLetters :
    (nativeTypes.map fun entry => bareLetters entry.1.toList).Nodup := by
  decide +kernel

theorem eq_of_bareLetters_eq {entry entry' : String × LogicalType} (hmem : entry ∈ nativeTypes)
    (hmem' : entry' ∈ nativeTypes)
    (h : bareLetters entry.1.toList = bareLetters entry'.1.toList) : entry = entry' :=
  List.inj_on_of_nodup_map nodup_bareLetters hmem hmem' h

theorem distinctNames_nativeTypes : DistinctNames nativeTypes :=
  fun _ hmem _ hmem' h => eq_of_bareLetters_eq hmem hmem' (bareLetters_eq h)

theorem eq_ofNativeName (h : Resolves nativeTypes name t) : ofNativeName name = t :=
  (resolves_resolveIn nativeTypes name).unique distinctNames_nativeTypes h

theorem ofNativeName_eq_unknown (h : ∀ entry ∈ nativeTypes, ¬ SameName entry.1 name) :
    ofNativeName name = .unknown :=
  eq_ofNativeName (.unlisted h)

/-- Whether a character is a letter of ASCII or one of those between the words of a name. -/
def IsNameChar (c : Char) : Prop :=
  c.isAlpha = true ∨ c = ' ' ∨ c = '_'

instance (c : Char) : Decidable (IsNameChar c) := by
  unfold IsNameChar; infer_instance

theorem IsNameChar.of_sameLetter {c d : Char} (hc : IsNameChar c) (h : SameLetter c d) :
    IsNameChar d := by
  rcases h with rfl | ⟨i, hi, h⟩
  · exact hc
  · left
    rw [isAlpha_iff_toNat]
    omega

theorem isNameChar_of_mem_nativeTypes {entry : String × LogicalType} (hentry : entry ∈ nativeTypes)
    {c : Char} (hc : c ∈ entry.1.toList) : IsNameChar c := by
  have hall : (nativeTypes.all fun entry =>
      entry.1.toList.all fun c => decide (IsNameChar c)) = true := by
    decide +kernel
  exact of_decide_eq_true (List.all_eq_true.1 (List.all_eq_true.1 hall entry hentry) c hc)

theorem ofNativeName_of_foreign {c : Char} (hmem : c ∈ name.toList) (hc : ¬ IsNameChar c) :
    ofNativeName name = .unknown := by
  refine ofNativeName_eq_unknown fun entry hentry hname => ?_
  obtain ⟨i, hi, rfl⟩ := List.getElem_of_mem hmem
  have hi' : i < entry.1.toList.length := by
    rw [List.Forall₂.length_eq hname]
    exact hi
  have hletter := (List.forall₂_iff_get.1 hname).2 i hi' hi
  have hkey := isNameChar_of_mem_nativeTypes hentry (List.getElem_mem hi')
  exact hc (hkey.of_sameLetter hletter)

/-- Blanks put into a name of the engine do not make another one of them. -/
theorem ofNativeName_of_spaced {entry : String × LogicalType} (hentry : entry ∈ nativeTypes)
    {before blanks after : List Char} (hname : SameName entry.1 (String.ofList (before ++ after)))
    (hne : blanks ≠ []) (hblanks : blanks.all Text.isBlank = true) :
    ofNativeName (String.ofList (before ++ blanks ++ after)) = .unknown := by
  refine ofNativeName_eq_unknown fun entry' hentry' hname' => ?_
  unfold SameName at hname hname'
  rw [String.toList_ofList] at hname hname'
  have hfilter : blanks.filter (fun c => !Text.isBlank c) = [] := by
    rw [List.filter_eq_nil_iff]
    intro c hc
    simp [List.all_eq_true.1 hblanks c hc]
  have hletters : bareLetters (before ++ blanks ++ after) = bareLetters (before ++ after) := by
    simp only [bareLetters, List.filter_append, hfilter, List.append_nil]
  -- both entries have the letters of the name, so they are one, but the name is too long for it
  have heq : entry' = entry := by
    apply eq_of_bareLetters_eq hentry' hentry
    rw [bareLetters_eq hname', bareLetters_eq hname, hletters]
  rw [heq] at hname'
  have hlength := hname.length_eq
  have hlength' := hname'.length_eq
  have hpos : 0 < blanks.length := List.length_pos_iff.2 hne
  simp only [List.length_append] at hlength hlength'
  omega

/-- The two passes are one look-up without regard to case, in any order of the table: names with the
same letters have the same type, and a name that differs from those of the table in anything else,
be it a blank or a character of no name, is of unknown type. -/
theorem resolved_up_to_case :
    (∀ table, table.Perm nativeTypes → ∀ name,
      resolveIn table name = ofNativeName name ∧ lookUp table name = ofNativeName name) ∧
    (∀ name name', SameName name name' → ofNativeName name = ofNativeName name') ∧
    (∀ entry ∈ nativeTypes, ∀ name, SameName entry.1 name → ofNativeName name = entry.2) ∧
    (∀ name, (∀ entry ∈ nativeTypes, ¬ SameName entry.1 name) → ofNativeName name = .unknown) ∧
    (∀ name, (∃ c ∈ name.toList, ¬ IsNameChar c) → ofNativeName name = .unknown) ∧
    ∀ entry ∈ nativeTypes, ∀ before blanks after : List Char,
      SameName entry.1 (String.ofList (before ++ after)) → blanks ≠ [] →
      blanks.all Text.isBlank = true →
      ofNativeName (String.ofList (before ++ blanks ++ after)) = .unknown := by
  refine ⟨fun table hperm name => ?_, fun name name' hname => ?_, ?_, ?_, ?_, ?_⟩
  · have hresolves {t : LogicalType} (h : Resolves table name t) : t = ofNativeName name :=
      (eq_ofNativeName (h.of_subset hperm.subset hperm.symm.subset)).symm
    exact ⟨hresolves (resolves_resolveIn table name), hresolves (resolves_lookUp table name)⟩
  · exact (eq_ofNativeName ((resolves_resolveIn nativeTypes name).of_sameName hname)).symm
  · intro entry hmem name hname
    exact eq_ofNativeName (.listed hmem hname)
  · intro name hnone
    exact ofNativeName_eq_unknown hnone
  · rintro name ⟨c, hmem, hc⟩
    exact ofNativeName_of_foreign hmem hc
  · intro entry hmem before blanks after hname hne hblanks
    exact ofNativeName_of_spaced hmem hname hne hblanks

/-- One name in two cases and in a table that is turned around, and other texts near to names: with
one more blank, with a length, with a letter that is not of ASCII, and without any of these. -/
theorem resolved_up_to_case_near_names :
    resolveIn nativeTypes.reverse "long VARCHAR" = .text ∧
      lookUp nativeTypes.reverse "long VARCHAR" = .text ∧
      ofNativeName "LONG VARBINARY" = ofNativeName "long varbinary" ∧
      ofNativeName "Long  Varchar" = .unknown ∧ ofNativeName "Varchar(80)" = .unknown ∧
      ofNativeName "T\u0131me" = .unknown ∧ ofNativeName "Geometry" = .unknown := by
  obtain ⟨hperm, hsame, hlisted, hunlisted, hforeign, hspaced⟩ := resolved_up_to_case
  obtain ⟨hpasses, hpass⟩ := hperm nativeTypes.reverse nativeTypes.reverse_perm "long VARCHAR"
  have htext : ofNativeName "long VARCHAR" = .text :=
    hlisted ("Long Varchar", .text) (by decide +kernel) "long VARCHAR" (by decide +kernel)
  refine ⟨hpasses.trans htext, hpass.trans htext, ?_, ?_, ?_, ?_, ?_⟩
  · exact hsame "LONG VARBINARY" "long varbinary" (by decide +kernel)
  · exact hspaced ("Long Varchar", .text) (by decide +kernel) "Long ".toList [' ']
      "Varchar".toList (by decide +kernel) (by decide) (by decide)
  · exact hforeign "Varchar(80)" ⟨'(', by decide +kernel, by decide⟩
  · exact hforeign "T\u0131me" ⟨'\u0131', by decide +kernel, by decide⟩
  · exact hunlisted "Geometry" (by decide +kernel)

end LogicalType
end SqlDialect
