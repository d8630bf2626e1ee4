import SqlDialect.Expr
import SqlDialect.KeyedMap
import SqlDialect.Proofs.Engine.Timestamp

/-!
# Evaluation of expressions

The values that the engine gives to the expressions of temporal requests. Strings are converted by
casts only; a function or a field that gets a value of another kind has none itself.
-/

namespace SqlDialect
namespace Engine

/-- A value of an expression. -/
inductive Value where
  | timestamp (t : Timestamp)
  | date (d : Date)
  | integer (n : Int)
  | text (s : String)
  /-- Months and seconds, counted back if the span is negative. -/
  | interval (months seconds : Nat) (negative : Bool)
deriving DecidableEq

/-- An integer, if it fits into 64 bits with a sign. -/
def integer? (n : Int) : Option Value :=
  if -9223372036854775808 ≤ n ∧ n < 9223372036854775808 then some (.integer n) else none

theorem integer?_eq_some {n : Int}
    (h : -9223372036854775808 ≤ n ∧ n < 9223372036854775808) :
    integer? n = some (.integer n) :=
  if_pos h

/-- A value cast to a type. -/
def cast? (type : String) (value : Value) : Option Value :=
  match type, value with
  | "TIMESTAMP", .timestamp t => some (.timestamp t)
  | "TIMESTAMP", .date d => some (.timestamp (.midnight d))
  | "TIMESTAMP", .text s => (Timestamp.ofText? s).map .timestamp
  | "DATE", .timestamp t => some (.date t.date)
  | "DATE", .date d => some (.date d)
  | "DATE", .text s => (Timestamp.ofText? s).map fun t => .date t.date
  | "INTEGER", .integer n => some (.integer n)
  | "CHAR", .text s => some (.text s)
  | "CHAR", .integer n => some (.text (String.ofList (Text.signedDigits n)))
  | _, _ => none

/-- The span of an interval. -/
def interval? (amount : Int) (unit : String) : Option Value :=
  match unit with
  | "second" => some (.interval 0 amount.natAbs (amount < 0))
  | "minute" => some (.interval 0 (60 * amount.natAbs) (amount < 0))
  | "hour" => some (.interval 0 (3600 * amount.natAbs) (amount < 0))
  | "day" => some (.interval 0 (86400 * amount.natAbs) (amount < 0))
  | "week" => some (.interval 0 (604800 * amount.natAbs) (amount < 0))
  | "month" => some (.interval amount.natAbs 0 (amount < 0))
  | "quarter" => some (.interval (3 * amount.natAbs) 0 (amount < 0))
  | "year" => some (.interval (12 * amount.natAbs) 0 (amount < 0))
  | _ => none

/-- A timestamp moved by a span, or against it; the months are moved first. -/
def moved (t : Timestamp) (months seconds : Nat) (back : Bool) : Timestamp :=
  if back then (t.plusMonths (-months)).plusSeconds (-seconds)
  else (t.plusMonths months).plusSeconds seconds

/-- The value of an operation. -/
def operation? (left : Value) (op : Operator) (right : Value) : Option Value :=
  match left, op, right with
  | .integer a, .plus, .integer b => integer? (a + b)
  | .integer a, .minus, .integer b => integer? (a - b)
  | .timestamp t, .plus, .interval months seconds negative =>
    some (.timestamp (moved t months seconds negative))
  | .timestamp t, .minus, .interval months seconds negative =>
    some (.timestamp (moved t months seconds !negative))
  | _, _, _ => none

/-- The value of a function. -/
def call? (function : String) (arguments : List Value) : Option Value :=
  match function, arguments with
  | "DATE_TRUNC", [.text unit, .timestamp t] => (t.truncatedTo? unit).map .timestamp
  | "WEEK", [.timestamp t] => some (.integer t.date.weekOfYear)
  | "WEEK", [.date d] => some (.integer d.weekOfYear)
  | "CHAR_LENGTH", [.text s] => some (.integer s.length)
  | _, _ => none

/-- What the value of an expression depends on. -/
structure Environment where
  /-- The values of the columns, by their names with points between the parts. -/
  columns : KeyedMap Value
  /-- The current time. -/
  now : Timestamp

mutual

/-- The value of an expression. -/
def eval (env : Environment) : Expr → Option Value
  | .identifier parts => env.columns.find? (".".intercalate parts)
  | .literal (.string s) => some (.text s)
  | .literal (.integer n) => some (.integer n)
  | .literal _ => none
  | .cast operand type => (eval env operand).bind (cast? type)
  | .binary left op right => do
    let left ← eval env left
    let right ← eval env right
    operation? left op right
  | .call function arguments => (evalAll env arguments).bind (call? function)
  | .extract field operand =>
    match eval env operand with
    | some (.timestamp t) => (t.field? field).map .integer
    | _ => none
  | .interval amount unit => interval? amount unit
  | .now => some (.timestamp env.now)
  | .raw _ => none

/-- The values of expressions, if each of them has one. -/
def evalAll (env : Environment) : List Expr → Option (List Value)
  | [] => some []
  | e :: es => do
    let value ← eval env e
    let values ← evalAll env es
    return value :: values

end

end Engine
end SqlDialect
