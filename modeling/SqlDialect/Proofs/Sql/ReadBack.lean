import SqlDialect.Proofs.Sql.Reader

/-!
# Reading printed expressions back

The text of an expression spells this expression and no other. A printed text is taken apart piece
by piece: `Lexed` says which tokens a piece consists of when the rest of the text follows it, and
`Spelled` that these tokens spell a phrase. Every way to build an expression preserves `Spelled`, so
an induction over the expression gives the main statement.
-/

namespace SqlDialect

/-! ## Pieces of a text -/

/-- The tokens of a text when another text follows it. -/
def Lexed (cs : List Char) (ts : List Token) (rest : List Char) : Prop :=
  tokens? (cs ++ rest) = (tokens? rest).map (ts ++ ·)

/-- Whether a text starts so that every token before it ends: with a space, a comma or a closing
parenthesis, or not at all. -/
def EndsToken (rest : List Char) : Prop :=
  ∀ c ∈ rest.head?, c = ' ' ∨ c = ',' ∨ c = ')'

theorem endsToken_nil : EndsToken [] := by
  simp [EndsToken]

theorem endsToken_cons {c : Char} (h : c = ' ' ∨ c = ',' ∨ c = ')') (rest : List Char) :
    EndsToken (c :: rest) := by
  simpa [EndsToken] using h

theorem EndsToken.ne {rest : List Char} (h : EndsToken rest) {c : Char}
    (hc : c ≠ ' ' ∧ c ≠ ',' ∧ c ≠ ')') : rest.head? ≠ some c := by
  intro hhead
  rcases h c hhead with rfl | rfl | rfl <;> simp at hc

theorem EndsToken.continuesWord_eq_false {rest : List Char} (h : EndsToken rest) :
    ∀ c ∈ rest.head?, continuesWord c = false := by
  intro c hc
  rcases h c hc with rfl | rfl | rfl <;> decide

theorem EndsToken.isDigit_eq_false {rest : List Char} (h : EndsToken rest) :
    ∀ c ∈ rest.head?, c.isDigit = false := by
  intro c hc
  rcases h c hc with rfl | rfl | rfl <;> decide

theorem Lexed.append {cs ds rest : List Char} {ts us : List Token} (h : Lexed cs ts (ds ++ rest))
    (h' : Lexed ds us rest) : Lexed (cs ++ ds) (ts ++ us) rest := by
  unfold Lexed at *
  rw [List.append_assoc, h, h', Option.map_map]
  congr 1
  funext vs
  simp

theorem lexed_space (rest : List Char) : Lexed [' '] [] rest := by
  have := tokens?_cons_of_isBlank (c := ' ') rest (by decide)
  simpa [Lexed] using this

theorem lexed_word (word : String) {rest : List Char} (hword : isWord word.toList = true)
    (hrest : ∀ c ∈ rest.head?, continuesWord c = false) :
    Lexed word.toList [.word word] rest := by
  have := tokens?_word hword hrest
  rwa [String.ofList_toList] at this

theorem lexed_name (part : String) {rest : List Char} (hrest : rest.head? ≠ some '"') :
    Lexed (Text.quoted '"' part.toList) [.name part] rest :=
  tokens?_name hrest

theorem lexed_string (value : String) {rest : List Char} (hrest : rest.head? ≠ some '\'') :
    Lexed (Text.quoted '\'' value.toList) [.string value] rest :=
  tokens?_string hrest

theorem lexed_digits (n : Nat) {rest : List Char} (hrest : ∀ c ∈ rest.head?, c.isDigit = false) :
    Lexed (Text.digits n) [.number n] rest :=
  tokens?_digits hrest

theorem lexed_operator (op : Operator) (rest : List Char) :
    Lexed [op.sign] [.operator op] rest :=
  tokens?_sign op rest

theorem lexed_point (rest : List Char) : Lexed ['.'] [.point] rest :=
  tokens?_cons_of_next? (by decide) rfl

theorem lexed_comma (rest : List Char) : Lexed [','] [.comma] rest :=
  tokens?_cons_of_next? (by decide) rfl

theorem lexed_opening (rest : List Char) : Lexed ['('] [.opening] rest :=
  tokens?_cons_of_next? (by decide) rfl

theorem lexed_closing (rest : List Char) : Lexed [')'] [.closing] rest :=
  tokens?_cons_of_next? (by decide) rfl

/-- A word and an opening parenthesis right after it. -/
theorem lexed_word_opening (word : String) (hword : isWord word.toList = true)
    (rest : List Char) : Lexed (word.toList ++ ['(']) [.word word, .opening] rest :=
  (lexed_word word hword (by simp [continuesWord])).append (lexed_opening rest)

theorem lexed_word_space (word : String) (hword : isWord word.toList = true)
    (rest : List Char) : Lexed (word.toList ++ [' ']) [.word word] rest :=
  (lexed_word word hword (by simp [continuesWord])).append (lexed_space rest)

/-- A word between spaces. -/
theorem lexed_spaced_word (word : String) (hword : isWord word.toList = true)
    (rest : List Char) : Lexed (' ' :: (word.toList ++ [' '])) [.word word] rest :=
  (lexed_space _).append (lexed_word_space word hword rest)

/-! ## Spellings -/

/-- Whether the tokens of a text spell a phrase, whatever follows the text. -/
def Spelled (p : Phrase) (cs : List Char) : Prop :=
  ∃ ts, Written p ts ∧ ∀ rest, EndsToken rest → Lexed cs ts rest

theorem Written.mono {level level' : Nat} {e : Expr} {ts : List Token}
    (h : Written (.expression level e) ts) (hle : level ≤ level') :
    Written (.expression level' e) ts := by
  induction hle with
  | refl => exact h
  | step _ ih => exact .looser ih

theorem Spelled.mono {level level' : Nat} {e : Expr} {cs : List Char}
    (h : Spelled (.expression level e) cs) (hle : level ≤ level') :
    Spelled (.expression level' e) cs := by
  obtain ⟨ts, hts, hlexed⟩ := h
  exact ⟨ts, hts.mono hle, hlexed⟩

/-- An expression spelled by one token. -/
theorem spelled_of_word {e : Expr} (word : String) (hword : isWord word.toList = true)
    (h : Written (.expression 0 e) [.word word]) : Spelled (.expression 0 e) word.toList := by
  exact ⟨_, h, fun rest hrest => lexed_word word hword hrest.continuesWord_eq_false⟩

theorem lexed_identifierChars {parts : List String} {rest : List Char} (hrest : EndsToken rest) :
    Lexed (Expr.identifierChars parts) (nameTokens parts) rest := by
  induction parts with
  | nil => simp [Lexed, Expr.identifierChars, nameTokens]
  | cons part parts ih =>
    cases parts with
    | nil => exact lexed_name part (hrest.ne (by decide))
    | cons next parts =>
      exact (lexed_name part (by simp)).append ((lexed_point _).append ih)

theorem spelled_identifier {parts : List String} (h : parts ≠ []) :
    Spelled (.expression 0 (.identifier parts)) (Expr.identifierChars parts) :=
  ⟨_, .name h, fun _ hrest => lexed_identifierChars hrest⟩

theorem spelled_string (s : String) :
    Spelled (.expression 0 (.string s)) (Text.quoted '\'' s.toList) :=
  ⟨_, .string s, fun _ hrest => lexed_string s (hrest.ne (by decide))⟩

theorem spelled_integer (i : Int) : Spelled (.expression 0 (.integer i)) (Text.signedDigits i) := by
  unfold Text.signedDigits
  split
  · next hneg =>
    have hi : -(i.natAbs : Int) = i := by omega
    have hwritten := Written.negative i.natAbs
    rw [hi] at hwritten
    refine ⟨_, hwritten, fun rest hrest => ?_⟩
    exact (lexed_operator .minus _).append (lexed_digits _ hrest.isDigit_eq_false)
  · next hpos =>
    have hi : (i.natAbs : Int) = i := by omega
    have hwritten := Written.number i.natAbs
    rw [hi] at hwritten
    refine ⟨_, hwritten, fun rest hrest => ?_⟩
    exact lexed_digits _ hrest.isDigit_eq_false

theorem spelled_cast {e : Expr} {cs : List Char} {type : String}
    (h : Spelled (.expression 2 e) cs) (htype : isWord type.toList = true) :
    Spelled (.expression 0 (.cast e type))
      ("CAST(".toList ++ cs ++ " AS ".toList ++ type.toList ++ [')']) := by
  obtain ⟨ts, hts, hlexed⟩ := h
  refine ⟨_, .cast type hts, fun rest _ => ?_⟩
  have hclosing := lexed_closing rest
  have htypeLexed : Lexed type.toList [.word type] ([')'] ++ rest) :=
    lexed_word type htype (by simp [continuesWord])
  have has : Lexed " AS ".toList [.word "AS"] (type.toList ++ ([')'] ++ rest)) :=
    lexed_spaced_word "AS" (by decide) _
  have hoperand := hlexed (" AS ".toList ++ (type.toList ++ ([')'] ++ rest)))
    (endsToken_cons (by decide) _)
  have hcast := lexed_word_opening "CAST" (by decide)
    (cs ++ (" AS ".toList ++ (type.toList ++ ([')'] ++ rest))))
  have hall := (((hcast.append hoperand).append has).append htypeLexed).append hclosing
  simpa using hall

theorem spelled_extract {e : Expr} {cs : List Char} {field : String}
    (h : Spelled (.expression 2 e) cs) (hfield : isWord field.toList = true) :
    Spelled (.expression 0 (.extract field e))
      ("EXTRACT(".toList ++ field.toList ++ " FROM ".toList ++ cs ++ [')']) := by
  obtain ⟨ts, hts, hlexed⟩ := h
  refine ⟨_, .extract field hts, fun rest _ => ?_⟩
  have hclosing := lexed_closing rest
  have hoperand := hlexed ([')'] ++ rest) (endsToken_cons (by decide) _)
  have hfrom : Lexed " FROM ".toList [.word "FROM"] (cs ++ ([')'] ++ rest)) :=
    lexed_spaced_word "FROM" (by decide) _
  have hfieldLexed :
      Lexed field.toList [.word field] (" FROM ".toList ++ (cs ++ ([')'] ++ rest))) :=
    lexed_word field hfield (by simp [continuesWord])
  have hextract := lexed_word_opening "EXTRACT" (by decide)
    (field.toList ++ (" FROM ".toList ++ (cs ++ ([')'] ++ rest))))
  have hall := (((hextract.append hfieldLexed).append hfrom).append hoperand).append hclosing
  simpa using hall

theorem isWord_not_mem {word : List Char} (hword : isWord word = true) {c : Char}
    (hc : startsWord c = false) (hc' : continuesWord c = false) : c ∉ word := by
  cases word with
  | nil => simp
  | cons d ds =>
    simp only [isWord, Bool.and_eq_true, List.all_eq_true] at hword
    intro hmem
    rcases List.mem_cons.1 hmem with rfl | hmem
    · simp [hc] at hword
    · have := hword.2 c hmem
      simp [hc'] at this

/-- The amount and the unit of a printed interval are found again. -/
theorem intervalParts?_eq_some (amount : Int) {unit : String} (hunit : isWord unit.toList = true) :
    intervalParts? (String.ofList (Text.signedDigits amount ++ ' ' :: unit.toList)) =
      some (amount, unit) := by
  have hamount : ' ' ∉ Text.signedDigits amount := by
    intro hmem
    rcases Text.mem_signedDigits hmem with h | h <;> simp at h
  have hpieces : Text.pieces ' ' (Text.signedDigits amount ++ ' ' :: unit.toList) =
      [Text.signedDigits amount, unit.toList] := by
    rw [Text.pieces_append hamount,
      Text.pieces_eq_singleton (isWord_not_mem hunit (by decide) (by decide))]
  simp [intervalParts?, hpieces, hunit]

theorem spelled_interval (amount : Int) {unit : String} (hunit : isWord unit.toList = true) :
    Spelled (.expression 0 (.interval amount unit))
      ("INTERVAL '".toList ++ Text.signedDigits amount ++ ' ' :: (unit.toList ++ ['\''])) := by
  have hinside : '\'' ∉ Text.signedDigits amount ++ ' ' :: unit.toList := by
    simp only [List.mem_append, List.mem_cons, not_or]
    refine ⟨fun hmem => ?_, by decide, isWord_not_mem hunit (by decide) (by decide)⟩
    rcases Text.mem_signedDigits hmem with h | h <;> simp at h
  refine ⟨_, .interval (intervalParts?_eq_some amount hunit), fun rest hrest => ?_⟩
  have hstring := lexed_string (String.ofList (Text.signedDigits amount ++ ' ' :: unit.toList))
    (hrest.ne (c := '\'') (by decide))
  rw [String.toList_ofList, Text.quoted, Text.double_eq_self hinside] at hstring
  have hall := (lexed_word_space "INTERVAL" (by decide) _).append hstring
  simpa using hall

theorem spelled_group {e : Expr} {cs : List Char} (h : Spelled (.expression 2 e) cs) :
    Spelled (.expression 0 e) ('(' :: (cs ++ [')'])) := by
  obtain ⟨ts, hts, hlexed⟩ := h
  refine ⟨_, .group hts, fun rest _ => ?_⟩
  have hoperand := hlexed ([')'] ++ rest) (endsToken_cons (by decide) _)
  exact (lexed_opening _).append (hoperand.append (lexed_closing rest))

theorem spelled_arguments {es : List Expr} (hne : es ≠ [])
    (h : ∀ e ∈ es, Spelled (.expression 2 e) e.chars) :
    Spelled (.arguments es) (Expr.argumentChars es) := by
  induction es with
  | nil => exact absurd rfl hne
  | cons e es ih =>
    obtain ⟨ts, hts, hlexed⟩ := h e (by simp)
    cases es with
    | nil => exact ⟨ts, .argument hts, hlexed⟩
    | cons next es =>
      obtain ⟨us, hus, hlexeds⟩ := ih (by simp) fun e' he' => h e' (by simp [he'])
      refine ⟨_, .moreArguments hts hus, fun rest hrest => ?_⟩
      have hmore := (lexed_comma _).append ((lexed_space _).append (hlexeds rest hrest))
      exact (hlexed _ (endsToken_cons (by decide) _)).append hmore

theorem spelled_call {function : String} {es : List Expr} (hword : isWord function.toList = true)
    (hkeyword : function ∉ keywords) (h : ∀ e ∈ es, Spelled (.expression 2 e) e.chars) :
    Spelled (.expression 0 (.call function es))
      (function.toList ++ '(' :: (Expr.argumentChars es ++ [')'])) := by
  cases es with
  | nil =>
    refine ⟨_, .callOfNone hkeyword, fun rest _ => ?_⟩
    have hall := (lexed_word_opening function hword _).append (lexed_closing rest)
    simpa [Expr.argumentChars] using hall
  | cons e es =>
    obtain ⟨ts, hts, hlexed⟩ := spelled_arguments (by simp) h
    refine ⟨_, .call hkeyword hts, fun rest _ => ?_⟩
    have harguments := hlexed ([')'] ++ rest) (endsToken_cons (by decide) _)
    have hclosing := harguments.append (lexed_closing rest)
    have hall := (lexed_word_opening function hword _).append hclosing
    simpa using hall

theorem spelled_binary {left right : Expr} {cs ds : List Char} (op : Operator)
    (hleft : Spelled (.expression 0 left) cs) (hright : Spelled (.expression 0 right) ds) :
    Spelled (.expression 2 (.binary left op right)) (cs ++ ' ' :: op.sign :: ' ' :: ds) := by
  -- the operands are spelled without operators, so any operator may join them
  obtain ⟨level, hlevel, hle⟩ : ∃ level, op.level = level + 1 ∧ level + 1 ≤ 2 := by
    cases op <;> exact ⟨_, rfl, by decide⟩
  obtain ⟨ts, hts, hlexedLeft⟩ := hleft
  obtain ⟨us, hus, hlexedRight⟩ := hright
  refine ⟨_, (Written.binary op hlevel (hts.mono (by omega)) (hus.mono (by omega))).mono hle,
    fun rest hrest => ?_⟩
  have hright := (lexed_space _).append (hlexedRight rest hrest)
  have hmore := (lexed_space _).append ((lexed_operator op _).append hright)
  exact (hlexedLeft _ (endsToken_cons (by decide) _)).append hmore

/-! ## Printed expressions -/

namespace Expr

/-- The expressions whose text is SQL of the grammar: everything but floating point numbers and raw
text, with words in the places of words and no keyword as the name of a function. -/
inductive Plain : Expr → Prop where
  | identifier {parts : List String} (h : parts ≠ []) : Plain (.identifier parts)
  | string (s : String) : Plain (.literal (.string s))
  | integer (i : Int) : Plain (.literal (.integer i))
  | boolean (b : Bool) : Plain (.literal (.boolean b))
  | null : Plain (.literal .null)
  | cast {operand : Expr} {type : String} (h : Plain operand)
      (htype : isWord type.toList = true) : Plain (.cast operand type)
  | binary {left right : Expr} (op : Operator) (hleft : Plain left) (hright : Plain right) :
      Plain (.binary left op right)
  | call {function : String} {arguments : List Expr} (hword : isWord function.toList = true)
      (hkeyword : function ∉ keywords) (h : ∀ e ∈ arguments, Plain e) :
      Plain (.call function arguments)
  | extract {field : String} {operand : Expr} (hfield : isWord field.toList = true)
      (h : Plain operand) : Plain (.extract field operand)
  | interval (amount : Int) {unit : String} (hunit : isWord unit.toList = true) :
      Plain (.interval amount unit)
  | now : Plain .now

/-- The level at which the text of an expression spells it. -/
def level (e : Expr) : Nat :=
  if e.needsParentheses then 2 else 0

end Expr

theorem Spelled.atSum {e : Expr} (h : Spelled (.expression e.level e) e.chars) :
    Spelled (.expression 2 e) e.chars := by
  refine h.mono ?_
  unfold Expr.level
  split <;> decide

/-- An operand stands in parentheses when its own text would not be read as one. -/
theorem Spelled.asOperand {e : Expr} (h : Spelled (.expression e.level e) e.chars) :
    Spelled (.expression 0 e) (Expr.parenthesized e.needsParentheses e.chars) := by
  cases hneeded : e.needsParentheses with
  | false =>
    have hlevel : e.level = 0 := by simp [Expr.level, hneeded]
    rw [hlevel] at h
    exact h
  | true => exact spelled_group h.atSum

/-- The text of an expression spells it: one case for each way to build an expression. -/
theorem Expr.Plain.spelled {e : Expr} (h : e.Plain) : Spelled (.expression e.level e) e.chars := by
  induction h with
  | identifier hparts => exact spelled_identifier hparts
  | string s => exact spelled_string s
  | integer i => exact spelled_integer i
  | boolean b =>
    cases b with
    | false => exact spelled_of_word "FALSE" (by decide) .false
    | true => exact spelled_of_word "TRUE" (by decide) .true
  | null => exact spelled_of_word "NULL" (by decide) .null
  | cast _ htype ih => exact spelled_cast ih.atSum htype
  | binary op _ _ ihleft ihright => exact spelled_binary op ihleft.asOperand ihright.asOperand
  | call hword hkeyword _ ih => exact spelled_call hword hkeyword fun e he => (ih e he).atSum
  | extract hfield _ ih => exact spelled_extract ih.atSum hfield
  | interval amount hunit => exact spelled_interval amount hunit
  | now => exact spelled_of_word "CURRENT_TIMESTAMP" (by decide) .now

theorem Expr.Plain.denotes {e : Expr} (h : e.Plain) : Denotes e.sql e := by
  obtain ⟨ts, hts, hlexed⟩ := h.spelled.atSum
  have hall : tokens? (e.chars ++ []) = (tokens? []).map (ts ++ ·) := hlexed [] endsToken_nil
  refine ⟨ts, ?_, hts⟩
  rw [List.append_nil, tokens?_nil] at hall
  rw [Expr.sql, String.toList_ofList, hall]
  simp

/-- The text of an expression is read as this expression to its end, by the grammar it spells no
other, and no other expression has the same text. -/
theorem Expr.reads_back {e : Expr} (h : e.Plain) :
    Expr.ofSql? e.sql = some e ∧ (∀ e', Denotes e.sql e' ↔ e' = e) ∧
      ∀ e' : Expr, e'.Plain → e'.sql = e.sql → e' = e := by
  refine ⟨ofSql?_of_denotes h.denotes, fun e' => ⟨fun h' => h'.unique h.denotes, ?_⟩,
    fun e' h' hsql => ?_⟩
  · rintro rfl
    exact h.denotes
  · have hdenotes := h'.denotes
    rw [hsql] at hdenotes
    exact hdenotes.unique h.denotes

/-- Quotes in names and strings, a negative number and nested operations are all read back. -/
theorem Expr.reads_back_quoted_difference :
    ∃ e : Expr, e.Plain ∧
      e.sql = "\"t\".\"a\"\"\" - (-5 / CAST(F('it''s', INTERVAL '-3 day') AS INTEGER))" ∧
      Expr.ofSql? e.sql = some e := by
  let cast : Expr := .cast (.call "F" [.literal (.string "it's"), .interval (-3) "day"]) "INTEGER"
  let e : Expr := .binary (.identifier ["t", "a\""]) .minus
    (.binary (.literal (.integer (-5))) .divide cast)
  have hcast : cast.Plain := by
    refine .cast (.call (by decide) (by decide) fun argument hargument => ?_) (by decide)
    simp only [List.mem_cons, List.not_mem_nil, or_false] at hargument
    rcases hargument with rfl | rfl
    · exact .string _
    · exact .interval _ (by decide)
  have hplain : e.Plain :=
    .binary .minus (.identifier (by simp)) (.binary .divide (.integer _) hcast)
  exact ⟨e, hplain, by decide, (Expr.reads_back hplain).1⟩

end SqlDialect
