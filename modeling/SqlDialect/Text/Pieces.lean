/-!
# Cutting a text into pieces

Splitting at a separator, cutting at the last occurrence of one, and putting a text in the place
of a placeholder.
-/

namespace SqlDialect.Text

/-- The pieces between the separators; one more than there are separators, and some may be empty. -/
def pieces (separator : Char) : List Char → List (List Char)
  | [] => [[]]
  | c :: cs =>
    if c = separator then [] :: pieces separator cs
    else
      match pieces separator cs with
      | [] => [[c]]
      | p :: ps => (c :: p) :: ps

/-- The pieces with the separator between them. -/
def joined (separator : List Char) : List (List Char) → List Char
  | [] => []
  | [p] => p
  | p :: q :: ps => p ++ separator ++ joined separator (q :: ps)

/-- What stands before and after the last separator; nothing when there is none. -/
def cutAtLast? (separator : Char) : List Char → Option (List Char × List Char)
  | [] => none
  | c :: cs =>
    match cutAtLast? separator cs with
    | some (before, after) => some (c :: before, after)
    | none => if c = separator then some ([], cs) else none

/-- The text with each two-character placeholder replaced, from left to right; a replacement is
not searched again. -/
def fillIn (first second : Char) (value : List Char) : List Char → List Char
  | [] => []
  | [c] => [c]
  | c :: d :: cs =>
    if c = first ∧ d = second then value ++ fillIn first second value cs
    else c :: fillIn first second value (d :: cs)

/-! ## Laws -/

/-- Taking characters that pass a test stops at the first one that does not. -/
theorem takeWhile_append_of_head {p : Char → Bool} {cs rest : List Char} (hcs : cs.all p = true)
    (hrest : ∀ c ∈ rest.head?, p c = false) :
    (cs ++ rest).takeWhile p = cs ∧ (cs ++ rest).dropWhile p = rest := by
  have hcs' : ∀ c ∈ cs, p c = true := List.all_eq_true.1 hcs
  have hstop : rest.takeWhile p = [] ∧ rest.dropWhile p = rest := by
    cases rest with
    | nil => simp
    | cons d ds => simp [hrest d (by simp)]
  rw [List.takeWhile_append_of_pos hcs', List.dropWhile_append_of_pos hcs', hstop.1, hstop.2]
  simp

/-- A text without separators is its only piece. -/
theorem pieces_eq_singleton {separator : Char} {cs : List Char} (h : separator ∉ cs) :
    pieces separator cs = [cs] := by
  induction cs with
  | nil => rfl
  | cons c cs ih =>
    simp only [List.mem_cons, not_or] at h
    simp [pieces, Ne.symm h.1, ih h.2]

/-- What stands before the first separator is the first piece. -/
theorem pieces_append {separator : Char} {cs : List Char} (h : separator ∉ cs) (ds : List Char) :
    pieces separator (cs ++ separator :: ds) = cs :: pieces separator ds := by
  induction cs with
  | nil => simp [pieces]
  | cons c cs ih =>
    simp only [List.mem_cons, not_or] at h
    simp [pieces, Ne.symm h.1, ih h.2]

theorem cutAtLast?_eq_none_iff {separator : Char} {cs : List Char} :
    cutAtLast? separator cs = none ↔ separator ∉ cs := by
  induction cs with
  | nil => simp [cutAtLast?]
  | cons c cs ih =>
    cases h : cutAtLast? separator cs with
    | none =>
      have hcs := ih.1 h
      by_cases hc : c = separator
      · simp [cutAtLast?, h, hc]
      · simp [cutAtLast?, h, hc, hcs, Ne.symm hc]
    | some found =>
      have hcs : separator ∈ cs := by
        apply Decidable.byContradiction
        intro hn
        rw [ih.2 hn] at h
        simp at h
      simp [cutAtLast?, h, hcs]

/-- A cut is the one place where the separator stands with none after it. -/
theorem cutAtLast?_eq_some_iff {separator : Char} {cs before after : List Char} :
    cutAtLast? separator cs = some (before, after) ↔
      cs = before ++ separator :: after ∧ separator ∉ after := by
  induction cs generalizing before after with
  | nil => simp [cutAtLast?]
  | cons c cs ih =>
    cases h : cutAtLast? separator cs with
    | none =>
      -- the first character is the only place where the text can be cut
      have hcs := cutAtLast?_eq_none_iff.1 h
      have hcut : cutAtLast? separator (c :: cs) =
          if c = separator then some ([], cs) else none := by
        simp only [cutAtLast?, h]
      rw [hcut]
      cases before with
      | nil =>
        by_cases hc : c = separator
        · rw [if_pos hc]
          constructor
          · rintro ⟨⟩
            exact ⟨by rw [hc, List.nil_append], hcs⟩
          · rintro ⟨⟨⟩, -⟩
            rfl
        · simp [hc]
      | cons b bs =>
        have hne : ¬ (c :: cs = b :: bs ++ separator :: after ∧ separator ∉ after) := by
          rintro ⟨hcons, -⟩
          rw [List.cons_append, List.cons.injEq] at hcons
          exact hcs (by simp [hcons.2])
        split
        · simp only [Option.some.injEq, Prod.mk.injEq, hne, iff_false]
          rintro ⟨⟨⟩, -⟩
        · simp only [reduceCtorEq, hne]
    | some found =>
      obtain ⟨foundBefore, foundAfter⟩ := found
      have hcut : cutAtLast? separator (c :: cs) = some (c :: foundBefore, foundAfter) := by
        simp only [cutAtLast?, h]
      rw [hcut]
      cases before with
      | nil =>
        -- the separator that was found comes after the first character
        obtain ⟨hcs, -⟩ := ih.1 h
        have hmem : separator ∈ cs := by simp [hcs]
        simp only [Option.some.injEq, Prod.mk.injEq, reduceCtorEq, false_and, false_iff,
          List.nil_append, List.cons.injEq, not_and, Decidable.not_not]
        rintro ⟨-, rfl⟩
        exact hmem
      | cons b bs =>
        have hrest := @ih bs after
        simp only [h, Option.some.injEq, Prod.mk.injEq] at hrest
        simp only [Option.some.injEq, Prod.mk.injEq, List.cons.injEq, List.cons_append, and_assoc,
          hrest]

/-- A text without the first character of the placeholder stays as it is. -/
theorem fillIn_eq_self {first second : Char} (value : List Char) {cs : List Char}
    (h : first ∉ cs) : fillIn first second value cs = cs := by
  induction cs with
  | nil => rfl
  | cons c cs ih =>
    simp only [List.mem_cons, not_or] at h
    have hrest := ih h.2
    cases cs with
    | nil => rfl
    | cons d ds => rw [fillIn, if_neg fun heq => h.1 heq.1.symm, hrest]

/-- The text before the first placeholder stays as it is, and the value takes the place of the
placeholder, whatever the value holds. -/
theorem fillIn_append {first second : Char} (value : List Char) {before : List Char}
    (h : first ∉ before) (after : List Char) :
    fillIn first second value (before ++ first :: second :: after) =
      before ++ value ++ fillIn first second value after := by
  induction before with
  | nil => rw [List.nil_append, fillIn, if_pos ⟨rfl, rfl⟩, List.nil_append]
  | cons c cs ih =>
    simp only [List.mem_cons, not_or] at h
    have hrest := ih h.2
    have hne : cs ++ first :: second :: after ≠ [] := by simp
    obtain ⟨d, ds, hds⟩ := List.exists_cons_of_ne_nil hne
    rw [List.cons_append, hds, fillIn, if_neg fun heq => h.1 heq.1.symm, ← hds, hrest]
    rfl

end SqlDialect.Text
