import SqlDialect.Expr
import SqlDialect.Number.Layout
import SqlDialect.Text.Quoted

/-!
# SQL text of an expression

Names stand in double quotes and strings in single quotes, with the quote doubled inside. An
operand of an operator stands in parentheses exactly when it is itself such an operation or raw
text, so the text shows the tree whatever the operators are.
-/

namespace SqlDialect

/-- The text of a literal. -/
def Literal.chars : Literal → List Char
  | .string value => Text.quoted '\'' value.toList
  | .integer value => Text.signedDigits value
  | .float value => value.text .plain
  | .boolean true => "TRUE".toList
  | .boolean false => "FALSE".toList
  | .null => "NULL".toList

namespace Expr

/-- The parts of a name, each in quotes, with points between them. -/
def identifierChars : List String → List Char
  | [] => []
  | [part] => Text.quoted '"' part.toList
  | part :: next :: rest => Text.quoted '"' part.toList ++ '.' :: identifierChars (next :: rest)

/-- Whether an expression stands in parentheses as an operand. -/
def needsParentheses : Expr → Bool
  | .binary .. | .raw _ => true
  | _ => false

/-- A text in parentheses, if they are needed. -/
def parenthesized (needed : Bool) (cs : List Char) : List Char :=
  if needed then '(' :: (cs ++ [')']) else cs

mutual

/-- The characters of the SQL text. -/
def chars : Expr → List Char
  | .identifier parts => identifierChars parts
  | .literal value => value.chars
  | .cast operand type => "CAST(".toList ++ operand.chars ++ " AS ".toList ++ type.toList ++ [')']
  | .binary left op right =>
    parenthesized left.needsParentheses left.chars ++ ' ' :: op.sign :: ' ' ::
      parenthesized right.needsParentheses right.chars
  | .call function arguments => function.toList ++ '(' :: (argumentChars arguments ++ [')'])
  | .extract field operand =>
    "EXTRACT(".toList ++ field.toList ++ " FROM ".toList ++ operand.chars ++ [')']
  | .interval amount unit =>
    "INTERVAL '".toList ++ Text.signedDigits amount ++ ' ' :: (unit.toList ++ ['\''])
  | .now => "CURRENT_TIMESTAMP".toList
  | .raw sql => sql.toList

/-- The arguments with commas between them. -/
def argumentChars : List Expr → List Char
  | [] => []
  | [argument] => argument.chars
  | argument :: next :: rest => argument.chars ++ ',' :: ' ' :: argumentChars (next :: rest)

end

/-- The SQL text of an expression. -/
def sql (e : Expr) : String :=
  String.ofList e.chars

end Expr
end SqlDialect
