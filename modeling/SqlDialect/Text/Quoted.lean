/-!
# Quoted text

A text between two quotes, in which a quote is written twice. String literals use the single quote
and identifiers the double quote; the rule is the same for every quote character. Main statement:
`scan` finds the end of a quoted text, and nothing past it, and gives back what was doubled.
-/

namespace SqlDialect.Text

/-- The inside of a quoted text: each quote is written twice, all else once. -/
def double (quote : Char) : List Char → List Char
  | [] => []
  | c :: cs => if c = quote then quote :: quote :: double quote cs else c :: double quote cs

/-- The text in quotes. -/
def quoted (quote : Char) (cs : List Char) : List Char :=
  quote :: (double quote cs ++ [quote])

/-- Reads up to the first quote that is not followed by another quote; what comes after that quote
is the rest. Nothing when there is no such quote. -/
def scan (quote : Char) : List Char → Option (List Char × List Char)
  | [] => none
  | [c] => if c = quote then some ([], []) else none
  | c :: d :: cs =>
    if c = quote then
      if d = quote then (scan quote cs).map fun (inside, rest) => (quote :: inside, rest)
      else some ([], d :: cs)
    else (scan quote (d :: cs)).map fun (inside, rest) => (c :: inside, rest)

/-! ## Laws -/

/-- Scanning the inside of a quoted text gives it back, whatever follows, so long as what follows
does not start with a further quote. -/
theorem scan_double_append {quote : Char} (cs rest : List Char) (h : rest.head? ≠ some quote) :
    scan quote (double quote cs ++ quote :: rest) = some (cs, rest) := by
  induction cs with
  | nil =>
    cases rest with
    | nil => simp [double, scan]
    | cons d rest =>
      have hd : d ≠ quote := by simpa using h
      simp [double, scan, hd]
  | cons c cs ih =>
    by_cases hc : c = quote
    · simp [double, scan, hc, ih]
    · have hne : double quote cs ++ quote :: rest ≠ [] := by simp
      obtain ⟨d, tail, htail⟩ := List.exists_cons_of_ne_nil hne
      simp only [double, hc, if_false, List.cons_append]
      rw [htail] at ih ⊢
      simp [scan, hc, ih]

/-- A text without quotes is its own inside. -/
theorem double_eq_self {quote : Char} {cs : List Char} (h : quote ∉ cs) : double quote cs = cs := by
  induction cs with
  | nil => rfl
  | cons c cs ih =>
    simp only [List.mem_cons, not_or] at h
    simp [double, Ne.symm h.1, ih h.2]

/-- The inside of a quoted text and what it stands for: two quotes stand for one, every other
character stands for itself, and no quote stands alone. -/
inductive Doubled (quote : Char) : List Char → List Char → Prop where
  | nil : Doubled quote [] []
  | pair {raw cs : List Char} (h : Doubled quote raw cs) :
    Doubled quote (quote :: quote :: raw) (quote :: cs)
  | other {c : Char} {raw cs : List Char} (hc : c ≠ quote) (h : Doubled quote raw cs) :
    Doubled quote (c :: raw) (c :: cs)

theorem doubled_iff {quote : Char} {raw cs : List Char} :
    Doubled quote raw cs ↔ raw = double quote cs := by
  constructor
  · intro h
    induction h with
    | nil => rfl
    | pair _ ih => rw [double, if_pos rfl, ih]
    | other hc _ ih => rw [double, if_neg hc, ih]
  · rintro rfl
    induction cs with
    | nil => exact .nil
    | cons c cs ih =>
      unfold double
      split
      · next hc =>
        subst hc
        exact .pair ih
      · next hc => exact .other hc ih

theorem doubled_double (quote : Char) (cs : List Char) : Doubled quote (double quote cs) cs :=
  doubled_iff.2 rfl

theorem doubled_of_scan {quote : Char} {text inside rest : List Char}
    (h : scan quote text = some (inside, rest)) :
    ∃ raw, Doubled quote raw inside ∧ text = raw ++ quote :: rest ∧ rest.head? ≠ some quote := by
  -- the cases are those of `scan`: what is left may be empty, one character, or start with two
  fun_induction scan quote text generalizing inside rest with
  | case1 => cases h
  | case2 =>
    cases h
    exact ⟨[], .nil, rfl, by simp⟩
  | case3 => cases h
  | case4 cs ih =>
    obtain ⟨⟨inner, _⟩, hscan, heq⟩ := Option.map_eq_some_iff.1 h
    cases heq
    obtain ⟨raw, hraw, rfl, hrest⟩ := ih hscan
    exact ⟨_, hraw.pair, rfl, hrest⟩
  | case5 d cs hd =>
    cases h
    exact ⟨[], .nil, rfl, by simpa using hd⟩
  | case6 c d cs hc ih =>
    obtain ⟨⟨inner, _⟩, hscan, heq⟩ := Option.map_eq_some_iff.1 h
    cases heq
    obtain ⟨raw, hraw, hcs, hrest⟩ := ih hscan
    exact ⟨c :: raw, hraw.other hc, congrArg (c :: ·) hcs, hrest⟩

/-- Scanning finds the one way to take the inside of a quoted text off the front of a text. -/
theorem scan_eq_some_iff {quote : Char} {text inside rest : List Char} :
    scan quote text = some (inside, rest) ↔
      ∃ raw, Doubled quote raw inside ∧ text = raw ++ quote :: rest ∧
        rest.head? ≠ some quote := by
  constructor
  · exact doubled_of_scan
  · rintro ⟨raw, hraw, rfl, hrest⟩
    rw [doubled_iff.1 hraw]
    exact scan_double_append inside rest hrest

end SqlDialect.Text
