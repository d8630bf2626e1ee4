import SqlDialect.Proofs.Sql.Tokens
import SqlDialect.Text.Pieces

/-!
# A grammar of SQL expressions

The grammar by which SQL expressions are usually read: `*` and `/` bind tighter than `+` and `-`,
operators of one rank associate to the left, and parentheses group. `Written` says which rows of
tokens spell an expression and `Denotes` which texts do. A level says how loosely the operators of a
phrase may bind: level 0 has none outside parentheses, level 1 has `*` and `/`, level 2 all of them.
-/

namespace SqlDialect

/-- The level of the phrases that an operator joins; a higher one binds less tightly. -/
def Operator.level : Operator → Nat
  | .times | .divide => 1
  | .plus | .minus => 2

/-- The words with a meaning of their own, which name no function. -/
def keywords : List String :=
  ["CAST", "EXTRACT", "INTERVAL", "TRUE", "FALSE", "NULL", "CURRENT_TIMESTAMP"]

/-- The amount and the unit of a span of time: a signed whole number, a space and a word. -/
def intervalParts? (inside : String) : Option (Int × String) :=
  match Text.pieces ' ' inside.toList with
  | [amount, unit] =>
    if isWord unit then (Text.integer? amount).map fun n => (n, String.ofList unit) else none
  | _ => none

/-- The tokens of a name: its parts with points between them. -/
def nameTokens : List String → List Token
  | [] => []
  | [part] => [.name part]
  | part :: next :: rest => .name part :: .point :: nameTokens (next :: rest)

/-- What a row of tokens can spell. -/
inductive Phrase where
  /-- An expression at a level. -/
  | expression (level : Nat) (e : Expr)
  /-- The arguments of a function, at least one. -/
  | arguments (es : List Expr)

/-- The rows of tokens that spell a phrase. -/
inductive Written : Phrase → List Token → Prop where
  | name {parts : List String} (h : parts ≠ []) :
      Written (.expression 0 (.identifier parts)) (nameTokens parts)
  | string (s : String) : Written (.expression 0 (.string s)) [.string s]
  | number (n : Nat) : Written (.expression 0 (.integer n)) [.number n]
  | negative (n : Nat) :
      Written (.expression 0 (.integer (-(n : Int)))) [.operator .minus, .number n]
  | positive (n : Nat) : Written (.expression 0 (.integer n)) [.operator .plus, .number n]
  | true : Written (.expression 0 (.literal (.boolean true))) [.word "TRUE"]
  | false : Written (.expression 0 (.literal (.boolean false))) [.word "FALSE"]
  | null : Written (.expression 0 (.literal .null)) [.word "NULL"]
  | now : Written (.expression 0 .now) [.word "CURRENT_TIMESTAMP"]
  | interval {inside unit : String} {amount : Int}
      (h : intervalParts? inside = some (amount, unit)) :
      Written (.expression 0 (.interval amount unit)) [.word "INTERVAL", .string inside]
  | cast {e : Expr} {ts : List Token} (type : String) (h : Written (.expression 2 e) ts) :
      Written (.expression 0 (.cast e type))
        (.word "CAST" :: .opening :: (ts ++ [.word "AS", .word type, .closing]))
  | extract {e : Expr} {ts : List Token} (field : String) (h : Written (.expression 2 e) ts) :
      Written (.expression 0 (.extract field e))
        (.word "EXTRACT" :: .opening :: .word field :: .word "FROM" :: (ts ++ [.closing]))
  | callOfNone {function : String} (hf : function ∉ keywords) :
      Written (.expression 0 (.call function [])) [.word function, .opening, .closing]
  | call {function : String} {es : List Expr} {ts : List Token} (hf : function ∉ keywords)
      (h : Written (.arguments es) ts) :
      Written (.expression 0 (.call function es))
        (.word function :: .opening :: (ts ++ [.closing]))
  | group {e : Expr} {ts : List Token} (h : Written (.expression 2 e) ts) :
      Written (.expression 0 e) (.opening :: (ts ++ [.closing]))
  | looser {level : Nat} {e : Expr} {ts : List Token} (h : Written (.expression level e) ts) :
      Written (.expression (level + 1) e) ts
  /-- The left operand may have operators of the same level, the right one may not. -/
  | binary {left right : Expr} {level : Nat} {ts us : List Token} (op : Operator)
      (hlevel : op.level = level + 1) (hleft : Written (.expression (level + 1) left) ts)
      (hright : Written (.expression level right) us) :
      Written (.expression (level + 1) (.binary left op right)) (ts ++ .operator op :: us)
  | argument {e : Expr} {ts : List Token} (h : Written (.expression 2 e) ts) :
      Written (.arguments [e]) ts
  | moreArguments {e : Expr} {es : List Expr} {ts us : List Token}
      (h : Written (.expression 2 e) ts) (hs : Written (.arguments es) us) :
      Written (.arguments (e :: es)) (ts ++ .comma :: us)

/-- Whether a text spells an expression. -/
def Denotes (sql : String) (e : Expr) : Prop :=
  ∃ ts, tokens? sql.toList = some ts ∧ Written (.expression 2 e) ts

/-- Every spelling starts with a token that closes no bracket. -/
theorem Written.exists_cons {p : Phrase} {ts : List Token} (h : Written p ts) :
    ∃ t us, ts = t :: us ∧ t ≠ .closing := by
  induction h with
  | @name parts hparts =>
    cases parts with
    | nil => exact absurd rfl hparts
    | cons part parts =>
      cases parts with
      | nil => exact ⟨_, _, rfl, by simp⟩
      | cons next rest => exact ⟨_, _, rfl, by simp⟩
  | looser h ih => exact ih
  | argument h ih => exact ih
  | binary op hlevel hleft hright ihleft ihright =>
    obtain ⟨t, us, rfl, ht⟩ := ihleft
    exact ⟨t, _, rfl, ht⟩
  | moreArguments h hs ih ihs =>
    obtain ⟨t, us, rfl, ht⟩ := ih
    exact ⟨t, _, rfl, ht⟩
  | _ => exact ⟨_, _, rfl, by simp⟩

end SqlDialect
