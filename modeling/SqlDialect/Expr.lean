import SqlDialect.Number.Binary64

/-!
# SQL expressions

The expressions that this library builds: references to columns, literals, and the few forms that
temporal requests need. Building never looks into an expression; it puts a new node around it.
-/

namespace SqlDialect

/-- A literal value. -/
inductive Literal where
  | string (value : String)
  | integer (value : Int)
  | float (value : Binary64)
  | boolean (value : Bool)
  | null
deriving DecidableEq

/-- An arithmetic operator. -/
inductive Operator where
  | plus
  | minus
  | times
  | divide
deriving DecidableEq, Repr

/-- The sign of an operator. -/
def Operator.sign : Operator → Char
  | .plus => '+'
  | .minus => '-'
  | .times => '*'
  | .divide => '/'

/-- An SQL expression. -/
inductive Expr where
  /-- A name of one or more parts, such as a table and a column in it. -/
  | identifier (parts : List String)
  /-- A literal value. -/
  | literal (value : Literal)
  /-- The operand converted to a type. -/
  | cast (operand : Expr) (type : String)
  /-- Two operands joined by an operator. -/
  | binary (left : Expr) (op : Operator) (right : Expr)
  /-- A function applied to arguments. -/
  | call (function : String) (arguments : List Expr)
  /-- A field of a point in time, such as its month. -/
  | extract (field : String) (operand : Expr)
  /-- A span of time. -/
  | interval (amount : Int) (unit : String)
  /-- The current point in time. -/
  | now
  /-- SQL text that is written as it is. -/
  | raw (sql : String)

namespace Expr

instance : Inhabited Expr := ⟨.now⟩

/-- A column without a table. -/
def column (name : String) : Expr :=
  .identifier [name]

/-- A string literal. -/
def string (value : String) : Expr :=
  .literal (.string value)

/-- An integer literal. -/
def integer (value : Int) : Expr :=
  .literal (.integer value)

/-- The sum of two expressions. -/
def plus (left right : Expr) : Expr :=
  .binary left .plus right

/-- The difference of two expressions. -/
def minus (left right : Expr) : Expr :=
  .binary left .minus right

end Expr
end SqlDialect
