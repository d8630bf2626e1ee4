import SqlDialect.Proofs.Json.NumberTexts

/-!
# Compact JSON text

The rules of the compact written form, told without the function that writes it: which characters
of a string are escaped and how, and how items and fields are put together. Main statement: every
value has exactly one compact text, the one that is written.
-/

namespace SqlDialect

/-! ## Strings -/

/-- How a character stands inside a string: control characters, quotes and backslashes with an
escape, all others as themselves. -/
inductive StandsAs : Char → List Char → Prop where
  | quote : StandsAs '"' ['\\', '"']
  | backslash : StandsAs '\\' ['\\', '\\']
  | backspace : StandsAs '\x08' ['\\', 'b']
  | tab : StandsAs '\t' ['\\', 't']
  | lineFeed : StandsAs '\n' ['\\', 'n']
  | formFeed : StandsAs '\x0c' ['\\', 'f']
  | carriageReturn : StandsAs '\r' ['\\', 'r']
  | control {c : Char} (hcode : c.toNat < 32) (hnamed : c ∉ ['\x08', '\t', '\n', '\x0c', '\r']) :
      StandsAs c
        ['\\', 'u', '0', '0', Nat.digitChar (c.toNat / 16), Nat.digitChar (c.toNat % 16)]
  | self {c : Char} (hcode : 32 ≤ c.toNat) (hquote : c ≠ '"') (hbackslash : c ≠ '\\') :
      StandsAs c [c]

/-- Characters, one after the other, as they stand inside a string. -/
inductive StandAs : List Char → List Char → Prop where
  | nil : StandAs [] []
  | cons {c : Char} {text cs rest : List Char} (h : StandsAs c text) (hrest : StandAs cs rest) :
      StandAs (c :: cs) (text ++ rest)

/-- The text of a string: its characters between quotes. -/
inductive StringText : String → List Char → Prop where
  | quoted {s : String} {text : List Char} (h : StandAs s.toList text) :
      StringText s ('"' :: (text ++ ['"']))

namespace Json

theorem hexDigits_of_lt : ∀ n < 32,
    hexDigits n = ['0', '0', Nat.digitChar (n / 16), Nat.digitChar (n % 16)] := by
  decide

theorem escapedChar_eq_self {c : Char} (hcode : 32 ≤ c.toNat) (hquote : c ≠ '"')
    (hbackslash : c ≠ '\\') : escapedChar c = [c] := by
  have hcontrol : ∀ d : Char, d.toNat < 32 → c ≠ d := by
    rintro d hd rfl
    omega
  unfold escapedChar
  rw [if_neg hquote, if_neg hbackslash, if_neg (hcontrol '\n' (by decide)),
    if_neg (hcontrol '\t' (by decide)), if_neg (hcontrol '\r' (by decide)), if_neg (by omega),
    if_neg (by omega), if_neg (by omega)]

theorem escapedChar_of_control {c : Char} (hcode : c.toNat < 32)
    (hnamed : c ∉ ['\x08', '\t', '\n', '\x0c', '\r']) :
    escapedChar c =
      ['\\', 'u', '0', '0', Nat.digitChar (c.toNat / 16), Nat.digitChar (c.toNat % 16)] := by
  have hprinted : ∀ d : Char, 32 ≤ d.toNat → c ≠ d := by
    rintro d hd rfl
    omega
  have hcodes : c.toNat ≠ 8 ∧ c.toNat ≠ 12 := by
    refine ⟨fun h => hnamed ?_, fun h => hnamed ?_⟩
    · rw [Char.toNat_inj.1 (show c.toNat = '\x08'.toNat from h)]
      decide
    · rw [Char.toNat_inj.1 (show c.toNat = '\x0c'.toNat from h)]
      decide
  simp only [List.mem_cons, List.not_mem_nil, or_false, not_or] at hnamed
  obtain ⟨-, htab, hline, -, hreturn⟩ := hnamed
  unfold escapedChar
  rw [if_neg (hprinted '"' (by decide)), if_neg (hprinted '\\' (by decide)), if_neg hline,
    if_neg htab, if_neg hreturn, if_neg hcodes.1, if_neg hcodes.2, if_pos hcode,
    hexDigits_of_lt _ hcode]

theorem standsAs_iff {c : Char} {text : List Char} : StandsAs c text ↔ text = escapedChar c := by
  constructor
  · intro h
    cases h with
    | control hcode hnamed => exact (escapedChar_of_control hcode hnamed).symm
    | self hcode hquote hbackslash => exact (escapedChar_eq_self hcode hquote hbackslash).symm
    | _ => rfl
  · rintro rfl
    by_cases hcode : c.toNat < 32
    · by_cases hnamed : c ∈ ['\x08', '\t', '\n', '\x0c', '\r']
      · simp only [List.mem_cons, List.not_mem_nil, or_false] at hnamed
        rcases hnamed with rfl | rfl | rfl | rfl | rfl
        · exact .backspace
        · exact .tab
        · exact .lineFeed
        · exact .formFeed
        · exact .carriageReturn
      · rw [escapedChar_of_control hcode hnamed]
        exact .control hcode hnamed
    · by_cases hquote : c = '"'
      · rw [hquote]
        exact .quote
      · by_cases hbackslash : c = '\\'
        · rw [hbackslash]
          exact .backslash
        · rw [escapedChar_eq_self (by omega) hquote hbackslash]
          exact .self (by omega) hquote hbackslash

theorem standAs_iff {cs text : List Char} : StandAs cs text ↔ text = cs.flatMap escapedChar := by
  constructor
  · intro h
    induction h with
    | nil => rfl
    | cons h _ ih => rw [List.flatMap_cons, standsAs_iff.1 h, ih]
  · rintro rfl
    induction cs with
    | nil => exact .nil
    | cons c cs ih => exact .cons (standsAs_iff.2 rfl) ih

theorem stringText_iff {s : String} {text : List Char} :
    StringText s text ↔ text = quotedText s := by
  constructor
  · rintro ⟨h⟩
    rw [standAs_iff.1 h]
    rfl
  · rintro rfl
    exact .quoted (standAs_iff.2 rfl)

end Json

/-! ## Values -/

mutual

/-- The compact text of a value: no blanks, and items and fields in brackets with commas between
them. -/
inductive CompactText : Json → List Char → Prop where
  | null : CompactText .null "null".toList
  | true : CompactText (.bool true) "true".toList
  | false : CompactText (.bool false) "false".toList
  | number {n : JsonNumber} {cs : List Char} (h : NumberText n cs) : CompactText (.number n) cs
  | string {s : String} {cs : List Char} (h : StringText s cs) : CompactText (.string s) cs
  | array {items : List Json} {cs : List Char} (h : CompactItems items cs) :
      CompactText (.array items) ('[' :: (cs ++ [']']))
  | object {fields : List (String × Json)} {cs : List Char} (h : CompactFields fields cs) :
      CompactText (.object fields) ('\x7b' :: (cs ++ ['\x7d']))

/-- The compact texts of items with commas between them. -/
inductive CompactItems : List Json → List Char → Prop where
  | none : CompactItems [] []
  | last {item : Json} {cs : List Char} (h : CompactText item cs) : CompactItems [item] cs
  | more {item next : Json} {rest : List Json} {cs ds : List Char} (h : CompactText item cs)
      (hrest : CompactItems (next :: rest) ds) :
      CompactItems (item :: next :: rest) (cs ++ ',' :: ds)

/-- The names and compact texts of fields with commas between them. -/
inductive CompactFields : List (String × Json) → List Char → Prop where
  | none : CompactFields [] []
  | last {name : String} {value : Json} {ns cs : List Char} (hname : StringText name ns)
      (h : CompactText value cs) : CompactFields [(name, value)] (ns ++ ':' :: cs)
  | more {name : String} {value : Json} {next : String × Json} {rest : List (String × Json)}
      {ns cs ds : List Char} (hname : StringText name ns) (h : CompactText value cs)
      (hrest : CompactFields (next :: rest) ds) :
      CompactFields ((name, value) :: next :: rest) (ns ++ ':' :: (cs ++ ',' :: ds))

end

namespace Json

mutual

theorem compactText_compactChars : ∀ value : Json, CompactText value value.compactChars
  | .null => .null
  | .bool true => .true
  | .bool false => .false
  | .number _ => .number (JsonNumber.numberText_iff.2 rfl)
  | .string _ => .string (stringText_iff.2 rfl)
  | .array items => .array (compactItems_compactItems items)
  | .object fields => .object (compactFields_compactFields fields)

theorem compactItems_compactItems : ∀ items : List Json, CompactItems items (compactItems items)
  | [] => .none
  | [item] => .last (compactText_compactChars item)
  | item :: next :: rest =>
    .more (compactText_compactChars item) (compactItems_compactItems (next :: rest))

theorem compactFields_compactFields :
    ∀ fields : List (String × Json), CompactFields fields (compactFields fields)
  | [] => .none
  | [(_, value)] => .last (stringText_iff.2 rfl) (compactText_compactChars value)
  | (_, value) :: next :: rest =>
    .more (stringText_iff.2 rfl) (compactText_compactChars value)
      (compactFields_compactFields (next :: rest))

end

mutual

theorem eq_compactChars {value : Json} {cs : List Char} :
    CompactText value cs → cs = value.compactChars
  | .null => rfl
  | .true => rfl
  | .false => rfl
  | .number h => JsonNumber.numberText_iff.1 h
  | .string h => stringText_iff.1 h
  | .array h => by rw [eq_compactItems h, compactChars]
  | .object h => by rw [eq_compactFields h, compactChars]

theorem eq_compactItems {items : List Json} {cs : List Char} :
    CompactItems items cs → cs = compactItems items
  | .none => rfl
  | .last h => eq_compactChars h
  | .more h hrest => by rw [eq_compactChars h, eq_compactItems hrest, compactItems]

theorem eq_compactFields {fields : List (String × Json)} {cs : List Char} :
    CompactFields fields cs → cs = compactFields fields
  | .none => rfl
  | .last hname h => by rw [stringText_iff.1 hname, eq_compactChars h, compactFields]
  | .more hname h hrest => by
    rw [stringText_iff.1 hname, eq_compactChars h, eq_compactFields hrest, compactFields]

end

/-- A value has one compact text, the one that is written. -/
theorem compactText_iff {value : Json} {text : String} :
    CompactText value text.toList ↔ text = value.compact := by
  constructor
  · intro h
    rw [compact, ← eq_compactChars h, String.ofList_toList]
  · rintro rfl
    rw [compact, String.toList_ofList]
    exact compactText_compactChars value

end Json
end SqlDialect
