import SqlDialect.Proofs.Sql.Grammar

/-!
# Reading SQL expressions

A reader by recursive descent that goes along the grammar: one function for each kind of phrase,
which takes a phrase off the front of the tokens and returns what comes after it. A rest that is not
shorter than the tokens would mean a failure; no phrase is empty, so this never decides anything but
that the recursion ends. Main statement: the reader finds every expression that a row of tokens
spells, so a row spells at most one.
-/

namespace SqlDialect

namespace Expr

/-- What comes after a token that must be there. -/
def after? (token : Token) : List Token → Option (List Token)
  | [] => none
  | t :: ts => if t = token then some ts else none

/-- The expression that a word spells by itself. -/
def constant? (w : String) : Option Expr :=
  if w = "TRUE" then some (.literal (.boolean true))
  else if w = "FALSE" then some (.literal (.boolean false))
  else if w = "NULL" then some (.literal .null)
  else if w = "CURRENT_TIMESTAMP" then some .now
  else none

/-- The parts of a name after its first part. -/
def moreParts : List Token → List String × List Token
  | .point :: .name part :: ts =>
    let (parts, rest) := moreParts ts
    (part :: parts, rest)
  | ts => ([], ts)

mutual

/-- Reads an expression without operators outside parentheses. -/
def operand? (ts : List Token) : Option (Expr × List Token) :=
  match ts with
  | .name part :: ts =>
    let (parts, rest) := moreParts ts
    some (.identifier (part :: parts), rest)
  | .string s :: ts => some (.string s, ts)
  | .number n :: ts => some (.integer n, ts)
  | .operator .minus :: .number n :: ts => some (.integer (-(n : Int)), ts)
  | .operator .plus :: .number n :: ts => some (.integer n, ts)
  | .opening :: ts => do
    let (e, rest) ← expression? 2 ts
    let rest ← after? .closing rest
    return (e, rest)
  | .word w :: ts => afterWord? w ts
  | _ => none
termination_by (ts.length, 0)

/-- Reads what comes after the word that an expression starts with. -/
def afterWord? (w : String) (ts : List Token) : Option (Expr × List Token) :=
  match constant? w with
  | some e => some (e, ts)
  | none =>
    match ts with
    | .string inside :: rest =>
      if w = "INTERVAL" then
        (intervalParts? inside).map fun (amount, unit) => (.interval amount unit, rest)
      else none
    | .opening :: ts =>
      if w = "INTERVAL" then none
      else if w = "CAST" then do
        let (e, rest) ← expression? 2 ts
        match rest with
        | .word as :: .word type :: .closing :: rest =>
          if as = "AS" then some (.cast e type, rest) else none
        | _ => none
      else if w = "EXTRACT" then
        match ts with
        | .word field :: .word from' :: ts =>
          if from' = "FROM" then do
            let (e, rest) ← expression? 2 ts
            let rest ← after? .closing rest
            return (.extract field e, rest)
          else none
        | _ => none
      else
        match ts with
        | .closing :: rest => some (.call w [], rest)
        | ts => do
          let (es, rest) ← arguments? ts
          let rest ← after? .closing rest
          return (.call w es, rest)
    | _ => none
termination_by (ts.length, 5)

/-- Reads an expression at a level. -/
def expression? (level : Nat) (ts : List Token) : Option (Expr × List Token) :=
  match level with
  | 0 => operand? ts
  | level + 1 => do
    let (e, rest) ← expression? level ts
    if rest.length < ts.length then chain? (level + 1) e rest else none
termination_by (ts.length, level + 1)

/-- Reads operators of a level and their right operands, as long as there are any. -/
def chain? (level : Nat) (left : Expr) (ts : List Token) : Option (Expr × List Token) :=
  match ts with
  | .operator op :: ts =>
    if op.level = level then do
      let (right, rest) ← expression? (level - 1) ts
      if rest.length < ts.length then chain? level (.binary left op right) rest else none
    else some (left, .operator op :: ts)
  | ts => some (left, ts)
termination_by (ts.length, 0)

/-- Reads one or more arguments with commas between them. -/
def arguments? (ts : List Token) : Option (List Expr × List Token) := do
  let (e, rest) ← expression? 2 ts
  match rest with
  | .comma :: rest =>
    if rest.length < ts.length then do
      let (es, rest) ← arguments? rest
      return (e :: es, rest)
    else none
  | rest => return ([e], rest)
termination_by (ts.length, 4)

end

/-- The expression that a whole text spells. -/
def ofSql? (sql : String) : Option Expr := do
  let ts ← tokens? sql.toList
  let (e, rest) ← expression? 2 ts
  if rest = [] then some e else none

end Expr

open SqlDialect.Expr

/-! ## What follows a phrase -/

/-- What may follow an expression of a level: no point and no operator that binds more tightly. -/
def Follows (level : Nat) (rest : List Token) : Prop :=
  rest.head? ≠ some .point ∧ ∀ op, rest.head? = some (.operator op) → level ≤ op.level

theorem Follows.mono {level level' : Nat} {rest : List Token} (h : Follows level' rest)
    (hle : level ≤ level') : Follows level rest :=
  ⟨h.1, fun op hop => Nat.le_trans hle (h.2 op hop)⟩

theorem follows_nil {level : Nat} : Follows level [] :=
  ⟨by simp, by simp⟩

theorem follows_closing (level : Nat) (rest : List Token) : Follows level (.closing :: rest) :=
  ⟨by simp, by simp⟩

theorem follows_operator {level : Nat} {op : Operator} (h : level ≤ op.level) (rest : List Token) :
    Follows level (.operator op :: rest) := by
  refine ⟨by simp, fun op' hop => ?_⟩
  simp only [List.head?_cons, Option.some.injEq, Token.operator.injEq] at hop
  exact hop ▸ h

theorem Operator.level_pos (op : Operator) : 0 < op.level := by
  cases op <;> decide

/-- Nothing is read when no operator of the level follows. -/
theorem chain?_eq_self {level : Nat} {rest : List Token} (e : Expr)
    (h : ∀ op, rest.head? = some (.operator op) → op.level ≠ level) :
    chain? level e rest = some (e, rest) := by
  unfold chain?
  split
  · next op ts => rw [if_neg (h op rfl)]
  · rfl

theorem chain?_of_follows {level : Nat} {rest : List Token} (e : Expr)
    (h : Follows (level + 1) rest) : chain? level e rest = some (e, rest) := by
  refine chain?_eq_self e fun op hop => ?_
  have := h.2 op hop
  omega

theorem chain?_zero (e : Expr) (rest : List Token) : chain? 0 e rest = some (e, rest) := by
  refine chain?_eq_self e fun op _ => ?_
  have := op.level_pos
  omega

/-! ## Completeness -/

theorem moreParts_nameTokens (part : String) (parts : List String) {rest : List Token}
    (h : rest.head? ≠ some .point) :
    ∃ ts, nameTokens (part :: parts) ++ rest = .name part :: ts ∧
      moreParts ts = (parts, rest) := by
  induction parts generalizing part with
  | nil =>
    refine ⟨rest, rfl, ?_⟩
    unfold moreParts
    split
    · simp at h
    · rfl
  | cons next parts ih =>
    obtain ⟨ts, hts, hmore⟩ := ih next
    refine ⟨.point :: .name next :: ts, ?_, ?_⟩
    · simp [nameTokens, ← hts]
    · rw [moreParts, hmore]

theorem constant?_eq_none {function : String} (h : function ∉ keywords) :
    constant? function = none := by
  simp only [keywords, List.mem_cons, List.not_mem_nil, or_false, not_or] at h
  simp [constant?, h]

/-- What the reader does with the tokens of a phrase, whatever follows them. An expression of a
level is read as the left operand of the operators of this level that come after it. -/
def Phrase.IsRead : Phrase → List Token → Prop
  | .expression level e, ts =>
    ∀ rest, Follows level rest → expression? level (ts ++ rest) = chain? level e rest
  | .arguments es, ts => ∀ rest, arguments? (ts ++ .closing :: rest) = some (es, .closing :: rest)

theorem isRead_of_operand? {e : Expr} {ts : List Token}
    (h : ∀ rest, Follows 0 rest → operand? (ts ++ rest) = some (e, rest)) :
    Phrase.IsRead (.expression 0 e) ts := by
  intro rest hrest
  rw [expression?, h rest hrest, chain?_zero]

theorem isRead_of_afterWord? {e : Expr} {w : String} {ts : List Token}
    (h : ∀ rest, afterWord? w (ts ++ rest) = some (e, rest)) :
    Phrase.IsRead (.expression 0 e) (.word w :: ts) := by
  apply isRead_of_operand?
  intro rest _
  rw [List.cons_append, operand?, h rest]

theorem Phrase.IsRead.read {level : Nat} {e : Expr} {ts : List Token}
    (h : Phrase.IsRead (.expression level e) ts) {rest : List Token}
    (hrest : Follows (level + 1) rest) : expression? level (ts ++ rest) = some (e, rest) := by
  rw [h rest (hrest.mono (by omega)), chain?_of_follows e hrest]

theorem Written.length_lt {p : Phrase} {ts : List Token} (h : Written p ts) (rest : List Token) :
    rest.length < (ts ++ rest).length := by
  obtain ⟨t, us, rfl, -⟩ := h.exists_cons
  simp only [List.cons_append, List.length_cons, List.length_append]
  omega

/-- The reader finds every phrase that tokens spell: one case for each rule of the grammar. -/
theorem Written.isRead {p : Phrase} {ts : List Token} (h : Written p ts) : p.IsRead ts := by
  induction h with
  | @name parts hparts =>
    apply isRead_of_operand?
    intro rest hrest
    obtain ⟨part, parts, rfl⟩ := List.exists_cons_of_ne_nil hparts
    obtain ⟨us, hus, hmore⟩ := moreParts_nameTokens part parts hrest.1
    rw [hus, operand?, hmore]
  | string s => exact isRead_of_operand? fun rest _ => by rw [List.singleton_append, operand?]
  | number n => exact isRead_of_operand? fun rest _ => by rw [List.singleton_append, operand?]
  | negative n => exact isRead_of_operand? fun rest _ => by simp [operand?]
  | positive n => exact isRead_of_operand? fun rest _ => by simp [operand?]
  | true => exact isRead_of_afterWord? fun rest => by rw [afterWord?.eq_def]; rfl
  | false => exact isRead_of_afterWord? fun rest => by rw [afterWord?.eq_def]; rfl
  | null => exact isRead_of_afterWord? fun rest => by rw [afterWord?.eq_def]; rfl
  | now => exact isRead_of_afterWord? fun rest => by rw [afterWord?.eq_def]; rfl
  | interval h =>
    apply isRead_of_afterWord?
    intro rest
    simp [afterWord?, constant?, h]
  | @cast e ts type h ih =>
    apply isRead_of_afterWord?
    intro rest
    have hfollows : Follows 3 (.word "AS" :: .word type :: .closing :: rest) := ⟨by simp, by simp⟩
    unfold afterWord?
    simp [constant?, ih.read hfollows]
  | @extract e ts field h ih =>
    apply isRead_of_afterWord?
    intro rest
    simp [afterWord?, constant?, ih.read (follows_closing 3 rest), after?]
  | @callOfNone function hf =>
    apply isRead_of_afterWord?
    intro rest
    have hconstant := constant?_eq_none hf
    simp only [keywords, List.mem_cons, List.not_mem_nil, or_false, not_or] at hf
    simp [afterWord?, hconstant, hf]
  | @call function es ts hf h ih =>
    apply isRead_of_afterWord?
    intro rest
    -- the arguments start with no closing parenthesis, so the reader looks for a first one
    obtain ⟨t, us, rfl, ht⟩ := h.exists_cons
    have hread := ih rest
    rw [List.cons_append] at hread
    have hconstant := constant?_eq_none hf
    simp only [keywords, List.mem_cons, List.not_mem_nil, or_false, not_or] at hf
    unfold afterWord?
    simp [hconstant, hf, hread, after?, ht]
  | @group e ts h ih =>
    apply isRead_of_operand?
    intro rest _
    simp [operand?, ih.read (follows_closing 3 rest), after?]
  | @looser level e ts h ih =>
    intro rest hrest
    rw [expression?, ih.read hrest]
    simp only [Option.bind_eq_bind, Option.bind_some, if_pos (h.length_lt rest)]
  | @binary left right level ts us op hlevel hleft hright ihleft ihright =>
    intro rest hrest
    have hoperator := follows_operator (Nat.le_of_eq hlevel.symm) (us ++ rest)
    rw [List.append_assoc, List.cons_append, ihleft _ hoperator, chain?, if_pos hlevel,
      Nat.add_sub_cancel, ihright.read hrest]
    simp only [Option.bind_eq_bind, Option.bind_some, if_pos (hright.length_lt rest)]
  | @argument e ts h ih =>
    intro rest
    rw [arguments?, ih.read (follows_closing 3 rest)]
    rfl
  | @moreArguments e es ts us h hs ih ihs =>
    intro rest
    have hfollows : Follows 3 (.comma :: (us ++ .closing :: rest)) := ⟨by simp, by simp⟩
    have hshorter : (us ++ .closing :: rest).length <
        (ts ++ .comma :: (us ++ .closing :: rest)).length := by
      simp only [List.length_append, List.length_cons]
      omega
    rw [List.append_assoc, List.cons_append, arguments?, ih.read hfollows]
    simp only [Option.bind_eq_bind, Option.bind_some, if_pos hshorter, ihs rest]
    rfl

/-- A text that spells an expression is read as this expression. -/
theorem ofSql?_of_denotes {sql : String} {e : Expr} (h : Denotes sql e) : ofSql? sql = some e := by
  obtain ⟨ts, hts, hwritten⟩ := h
  have hread := hwritten.isRead.read follows_nil
  rw [List.append_nil] at hread
  simp [ofSql?, hts, hread]

/-- Without parentheses, products come before sums and equal ranks go from left to right. -/
example : ofSql? "\"a\" - \"b\" * -1 - 2" =
    some (((column "a").minus (.binary (column "b") .times (integer (-1)))).minus (integer 2)) := by
  cbv

/-- A text spells at most one expression. -/
theorem Denotes.unique {sql : String} {e e' : Expr} (h : Denotes sql e) (h' : Denotes sql e') :
    e = e' := by
  have := ofSql?_of_denotes h
  rw [ofSql?_of_denotes h'] at this
  exact (Option.some.inj this).symm

end SqlDialect
