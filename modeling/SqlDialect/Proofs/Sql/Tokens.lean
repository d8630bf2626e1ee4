import SqlDialect.Expr.Printer
import SqlDialect.Text.Blank
import SqlDialect.Text.Pieces
import Mathlib.Tactic.SplitIfs

/-!
# Tokens of SQL text

SQL text is a row of tokens with blanks between them: unquoted words, names in double quotes,
strings in single quotes, whole numbers and a few signs. A token reaches as far as it can, so a text
has at most one row of tokens. Main statements: each kind of token is found at the start of a text
when what follows cannot belong to it.
-/

namespace SqlDialect

/-- Whether an unquoted word can start with a character. -/
def startsWord (c : Char) : Bool :=
  c.isAlpha || c = '_'

/-- Whether a character can stand in an unquoted word after its start. -/
def continuesWord (c : Char) : Bool :=
  c.isAlphanum || c = '_'

/-- Whether a text is an unquoted word: a letter or `_`, then letters, digits and `_`. -/
def isWord : List Char → Bool
  | [] => false
  | c :: cs => startsWord c && cs.all continuesWord

/-- A token of SQL text. -/
inductive Token where
  /-- An unquoted word, such as the name of a function. -/
  | word (value : String)
  /-- A part of a name, in double quotes in the text. -/
  | name (part : String)
  /-- A string, in single quotes in the text. -/
  | string (value : String)
  /-- A row of digits. -/
  | number (value : Nat)
  /-- The sign of an operator. -/
  | operator (op : Operator)
  | point
  | comma
  | opening
  | closing
deriving DecidableEq

namespace Token

/-- The token of a single character. -/
def ofSign? (c : Char) : Option Token :=
  if c = '+' then some (.operator .plus)
  else if c = '-' then some (.operator .minus)
  else if c = '*' then some (.operator .times)
  else if c = '/' then some (.operator .divide)
  else if c = '.' then some .point
  else if c = ',' then some .comma
  else if c = '(' then some .opening
  else if c = ')' then some .closing
  else none

/-- The token at the start of a text and what comes after it. -/
def next? : List Char → Option (Token × List Char)
  | [] => none
  | c :: cs =>
    if startsWord c then
      some (.word (String.ofList (c :: cs.takeWhile continuesWord)), cs.dropWhile continuesWord)
    else if c.isDigit then
      some (.number (Text.digitsValue (c :: cs.takeWhile Char.isDigit)),
        cs.dropWhile Char.isDigit)
    else if c = '"' then
      (Text.scan '"' cs).map fun (inside, rest) => (.name (String.ofList inside), rest)
    else if c = '\'' then
      (Text.scan '\'' cs).map fun (inside, rest) => (.string (String.ofList inside), rest)
    else (ofSign? c).map fun token => (token, cs)

end Token

theorem Text.length_lt_of_scan {quote : Char} {cs inside rest : List Char}
    (h : Text.scan quote cs = some (inside, rest)) : rest.length < cs.length := by
  obtain ⟨raw, -, rfl, -⟩ := Text.doubled_of_scan h
  rw [List.length_append, List.length_cons]
  omega

/-- A token takes at least one character, so the search for tokens comes to an end. -/
theorem Token.length_lt_of_next? {cs rest : List Char} {token : Token}
    (h : next? cs = some (token, rest)) : rest.length < cs.length := by
  cases cs with
  | nil => simp [next?] at h
  | cons c cs =>
    have hdrop (p : Char → Bool) : (cs.dropWhile p).length ≤ cs.length :=
      (List.dropWhile_sublist p).length_le
    simp only [next?] at h
    split_ifs at h
    · simp only [Option.some.injEq, Prod.mk.injEq] at h
      obtain ⟨-, rfl⟩ := h
      exact Nat.lt_succ_of_le (hdrop continuesWord)
    · simp only [Option.some.injEq, Prod.mk.injEq] at h
      obtain ⟨-, rfl⟩ := h
      exact Nat.lt_succ_of_le (hdrop Char.isDigit)
    all_goals
      simp only [Option.map_eq_some_iff, Prod.mk.injEq, Prod.exists] at h
    · obtain ⟨inside, rest', hscan, -, rfl⟩ := h
      exact Nat.lt_succ_of_lt (Text.length_lt_of_scan hscan)
    · obtain ⟨inside, rest', hscan, -, rfl⟩ := h
      exact Nat.lt_succ_of_lt (Text.length_lt_of_scan hscan)
    · obtain ⟨token', -, -, rfl⟩ := h
      exact Nat.lt_succ_self _

/-- The tokens of a text, if all of it consists of tokens and blanks. -/
def tokens? (cs : List Char) : Option (List Token) :=
  match cs with
  | [] => some []
  | c :: cs =>
    if Text.isBlank c then tokens? cs
    else
      match _h : Token.next? (c :: cs) with
      | none => none
      | some (token, rest) => (tokens? rest).map (token :: ·)
termination_by cs.length
decreasing_by
  · simp
  · exact Token.length_lt_of_next? _h

/-! ## Finding the next token -/

theorem tokens?_nil : tokens? [] = some [] := by
  rw [tokens?]

theorem tokens?_cons_of_isBlank {c : Char} (cs : List Char) (h : Text.isBlank c = true) :
    tokens? (c :: cs) = tokens? cs := by
  rw [tokens?, if_pos h]

theorem tokens?_cons_of_next? {c : Char} {cs rest : List Char} {token : Token}
    (hc : Text.isBlank c = false) (h : Token.next? (c :: cs) = some (token, rest)) :
    tokens? (c :: cs) = (tokens? rest).map (token :: ·) := by
  rw [tokens?, if_neg (by simp [hc])]
  split
  · next hnone => rw [h] at hnone; simp at hnone
  · next token' rest' hsome =>
    rw [h] at hsome
    simp only [Option.some.injEq, Prod.mk.injEq] at hsome
    obtain ⟨rfl, rfl⟩ := hsome
    rfl

theorem startsWord_iff {c : Char} : startsWord c = true ↔
    (65 ≤ c.toNat ∧ c.toNat ≤ 90) ∨ (97 ≤ c.toNat ∧ c.toNat ≤ 122) ∨ c = '_' := by
  show (decide ('A'.val ≤ c.val ∧ c.val ≤ 'Z'.val) ||
    (decide ('a'.val ≤ c.val) && decide (c.val ≤ 'z'.val)) || decide (c = '_')) = true ↔ _
  simp only [Bool.or_eq_true, Bool.and_eq_true, decide_eq_true_eq, UInt32.le_iff_toNat_le, or_assoc]
  rfl

theorem isBlank_eq_false_of_startsWord {c : Char} (h : startsWord c = true) :
    Text.isBlank c = false := by
  rcases startsWord_iff.1 h with h | h | rfl
  · exact Text.isBlank_eq_false_of_ascii (by omega) (by omega)
  · exact Text.isBlank_eq_false_of_ascii (by omega) (by omega)
  · decide

theorem startsWord_eq_false_of_isDigit {c : Char} (h : c.isDigit = true) :
    startsWord c = false := by
  have hcode : 48 ≤ c.toNat ∧ c.toNat ≤ 57 := Char.isDigit_iff_toNat.1 h
  rw [Bool.eq_false_iff]
  intro hword
  rcases startsWord_iff.1 hword with h | h | rfl
  · omega
  · omega
  · exact absurd hcode (by decide)

/-- An unquoted word is one token when no further character of a word follows it. -/
theorem tokens?_word {word : List Char} {rest : List Char} (hword : isWord word = true)
    (hrest : ∀ c ∈ rest.head?, continuesWord c = false) :
    tokens? (word ++ rest) = (tokens? rest).map (.word (String.ofList word) :: ·) := by
  cases word with
  | nil => simp [isWord] at hword
  | cons c cs =>
    simp only [isWord, Bool.and_eq_true] at hword
    obtain ⟨htake, hdrop⟩ := Text.takeWhile_append_of_head hword.2 hrest
    refine tokens?_cons_of_next? (isBlank_eq_false_of_startsWord hword.1) ?_
    simp [Token.next?, hword.1, htake, hdrop]

/-- A whole number is one token when no further digit follows it. -/
theorem tokens?_digits {n : Nat} {rest : List Char}
    (hrest : ∀ c ∈ rest.head?, c.isDigit = false) :
    tokens? (Text.digits n ++ rest) = (tokens? rest).map (.number n :: ·) := by
  obtain ⟨c, cs, hcs⟩ := List.exists_cons_of_ne_nil (Text.digits_ne_nil n)
  have hdigit : ∀ d ∈ c :: cs, d.isDigit = true := by
    rw [← hcs]
    exact fun d hd => Text.isDigit_of_mem_digits hd
  have hc : c.isDigit = true := hdigit c (by simp)
  have hall : cs.all Char.isDigit = true :=
    List.all_eq_true.2 fun d hd => hdigit d (by simp [hd])
  obtain ⟨htake, hdrop⟩ := Text.takeWhile_append_of_head hall hrest
  have hvalue : Text.digitsValue (c :: cs) = n := by
    rw [← hcs, Text.digitsValue_digits]
  rw [hcs]
  refine tokens?_cons_of_next? (Text.isBlank_eq_false_of_isDigit hc) ?_
  simp [Token.next?, startsWord_eq_false_of_isDigit hc, hc, htake, hdrop, hvalue]

/-- A quoted name is one token when no further quote follows it. -/
theorem tokens?_name {part : String} {rest : List Char} (hrest : rest.head? ≠ some '"') :
    tokens? (Text.quoted '"' part.toList ++ rest) = (tokens? rest).map (.name part :: ·) := by
  refine tokens?_cons_of_next? (by decide) ?_
  have hscan := Text.scan_double_append part.toList rest hrest
  simp [Token.next?, hscan, startsWord]

/-- A quoted string is one token when no further quote follows it. -/
theorem tokens?_string {value : String} {rest : List Char} (hrest : rest.head? ≠ some '\'') :
    tokens? (Text.quoted '\'' value.toList ++ rest) = (tokens? rest).map (.string value :: ·) := by
  refine tokens?_cons_of_next? (by decide) ?_
  have hscan := Text.scan_double_append value.toList rest hrest
  simp [Token.next?, hscan, startsWord]

/-- The sign of an operator is a token, whatever follows it. -/
theorem tokens?_sign (op : Operator) (rest : List Char) :
    tokens? (op.sign :: rest) = (tokens? rest).map (.operator op :: ·) := by
  cases op <;> exact tokens?_cons_of_next? (by decide) rfl

end SqlDialect
