import SqlDialect.Granularity
import SqlDialect.IntervalUnit
import SqlDialect.Number.Decimal

/-!
# Command lines

Reading the arguments of a command line. Options may stand before and after the name of the command
and among its operands; `--` ends them. An option and its value may be written as one argument, and
short options may share one dash. An argument is checked when the next one begins, so that of two
faults the earlier one counts, and a request for the version counts only if no fault comes before
it.
-/

namespace SqlDialect.CommandLine

/-! ## Commands -/

/-- A command with its operands. -/
inductive Command where
  /-- Shows the logical type of a native type name. -/
  | resolveType (name : String)
  /-- Writes an expression at a granularity. -/
  | truncate (granularity : Granularity) (expr : String) (literal : Bool)
  /-- Writes an offset from the current time. -/
  | offset (unit : IntervalUnit) (amount : Binary64)
  /-- Shows the spec of the configured connection. -/
  | connection
  /-- Lists the fields of a connection. -/
  | properties
  /-- Writes the statement that sets the time zone. -/
  | timezone (zone : Option String)

/-- A command line that was understood. -/
structure Invocation where
  /-- The path of the configuration, if one is given. -/
  config : Option String
  /-- Whether more is reported. -/
  verbose : Bool
  /-- The command. -/
  command : Command

/-- Why no command is run. -/
inductive Stop where
  /-- The command line is not understood. -/
  | usage
  /-- Help is asked for. -/
  | help
  /-- The version is asked for. -/
  | version
deriving DecidableEq, Repr

/-! ## What a command accepts -/

/-- The name of an option. -/
inductive OptionName where
  | config
  | verbose
  | literal
  | help
  | version
deriving DecidableEq, Repr

/-- The name of an option after two dashes. -/
def OptionName.long : OptionName → String
  | .config => "config"
  | .verbose => "verbose"
  | .literal => "literal"
  | .help => "help"
  | .version => "version"

/-- The letter of an option after one dash. -/
def OptionName.short : OptionName → Char
  | .config => 'c'
  | .verbose => 'v'
  | .literal => 'l'
  | .help => 'h'
  | .version => 'V'

/-- The kind of an operand. -/
inductive Operand where
  | text
  | granularity
  | unit
  | amount
deriving DecidableEq, Repr

/-- Whether a text is an operand of this kind. -/
def Operand.accepts : Operand → String → Bool
  | .text, _ => true
  | .granularity, s => (Granularity.ofToken? s).isSome
  | .unit, s => (IntervalUnit.ofToken? s).isSome
  | .amount, s => (Binary64.ofText? s).isSome

/-- What may follow the name of a command. -/
structure Grammar where
  /-- The options. -/
  options : List OptionName
  /-- The operands in their order. -/
  operands : List Operand
  /-- How many of the operands must be there. -/
  required : Nat

/-- The commands by name. -/
inductive CommandName where
  | resolveType
  | truncate
  | offset
  | connection
  | properties
  | timezone
deriving DecidableEq, Repr

/-- The command with a given name. -/
def CommandName.ofText? (s : String) : Option CommandName :=
  if s = "resolve-type" then some .resolveType
  else if s = "truncate" then some .truncate
  else if s = "offset" then some .offset
  else if s = "connection" then some .connection
  else if s = "properties" then some .properties
  else if s = "timezone" then some .timezone
  else none

/-- What may stand before the name of the command. -/
def Grammar.outer : Grammar := ⟨[.config, .verbose, .help, .version], [], 0⟩

/-- What may follow the name of a command. -/
def CommandName.grammar : CommandName → Grammar
  | .resolveType => ⟨[.config, .verbose, .help], [.text], 1⟩
  | .truncate => ⟨[.config, .verbose, .literal, .help], [.granularity, .text], 2⟩
  | .offset => ⟨[.config, .verbose, .help], [.unit, .amount], 2⟩
  | .connection => ⟨[.config, .verbose, .help], [], 0⟩
  | .properties => ⟨[.config, .verbose, .help], [], 0⟩
  | .timezone => ⟨[.config, .verbose, .help], [.text], 0⟩

/-! ## Reading -/

/-- An argument that is not checked yet. -/
inductive Pending where
  /-- The value of `--config`, or none so far. -/
  | configValue (value : Option String)
  /-- An operand. -/
  | operand (value : String)

/-- What has been read on one level. -/
structure Seen where
  /-- The path of the configuration. -/
  config : Option String := none
  /-- Whether `--verbose` was there. -/
  verbose : Bool := false
  /-- Whether `--literal` was there. -/
  literal : Bool := false
  /-- The operands. -/
  operands : List String := []
  /-- The argument that is not checked yet. -/
  pending : Option Pending := none

namespace Seen

/-- The number of operands, with one that is not checked yet. -/
def operandCount (seen : Seen) : Nat :=
  match seen.pending with
  | some (.operand _) => seen.operands.length + 1
  | _ => seen.operands.length

/-- Whether the value of an option is wanted next. -/
def awaitsValue (seen : Seen) : Bool :=
  match seen.pending with
  | some (.configValue none) => true
  | _ => false

/-- Takes the path of the configuration, which may be given once and is not empty. -/
def setConfig (seen : Seen) (path : String) : Except Stop Seen :=
  if path = "" ∨ seen.config.isSome then .error .usage
  else .ok { seen with config := some path }

/-- Checks the argument that is not checked yet. -/
def settle (grammar : Grammar) (seen : Seen) : Except Stop Seen :=
  let rest := { seen with pending := none }
  match seen.pending with
  | none => .ok seen
  | some (.configValue none) => .error .usage
  | some (.configValue (some path)) => rest.setConfig path
  | some (.operand value) =>
    match grammar.operands[seen.operands.length]? with
    | some operand =>
      if operand.accepts value then .ok { rest with operands := seen.operands ++ [value] }
      else .error .usage
    | none => .error .usage

/-- Takes an option without a value. -/
def setFlag (seen : Seen) : OptionName → Except Stop Seen
  | .verbose => if seen.verbose then .error .usage else .ok { seen with verbose := true }
  | .literal => if seen.literal then .error .usage else .ok { seen with literal := true }
  | .help => .error .help
  | .version => .error .version
  | .config => .error .usage

/-- Takes an option and the value that is written with it, if there is one. -/
def takeOption (grammar : Grammar) (seen : Seen) (name : OptionName) (value : Option String) :
    Except Stop Seen := do
  match name, value with
  | .config, none =>
    let seen ← seen.settle grammar
    return { seen with pending := some (.configValue none) }
  | .config, some path =>
    let seen ← seen.settle grammar
    seen.setConfig path
  | _, some _ => .error .usage
  | name, none =>
    let seen ← seen.settle grammar
    seen.setFlag name

/-- Takes a plain argument: the value of an option if one is wanted, else an operand. -/
def takePlain (grammar : Grammar) (seen : Seen) (arg : String) (onlyOperands : Bool) :
    Except Stop Seen :=
  if seen.awaitsValue && !onlyOperands then
    .ok { seen with pending := some (.configValue (some arg)) }
  else if seen.operandCount < grammar.operands.length then do
    let seen ← seen.settle grammar
    return { seen with pending := some (.operand arg) }
  else .error .usage

end Seen

/-- Whether a text consists of digits and at most one point among or after them. -/
def isPlainNumber (cs : List Char) : Bool :=
  (cs.filter (· ≠ '.')).all Char.isDigit && cs.count '.' ≤ 1 && cs.head? ≠ some '.'

/-- Whether a text is a number that may follow a minus sign: digits with at most one point among or
after them, and perhaps an `e` or `E` with digits after it. A sign after the `e` is not accepted. -/
def looksLikeNumber (cs : List Char) : Bool :=
  let isMark (c : Char) : Bool := c = 'e' || c = 'E'
  let number := cs.takeWhile fun c => !isMark c
  match cs.dropWhile fun c => !isMark c with
  | [] => isPlainNumber number
  | _ :: power =>
    number ≠ [] && isPlainNumber number && power ≠ [] && power.all Char.isDigit

/-- The text before the first sign of equality, and the text after it. -/
def splitValue (cs : List Char) : String × Option String :=
  let name := String.ofList (cs.takeWhile (· ≠ '='))
  match cs.dropWhile (· ≠ '=') with
  | [] => (name, none)
  | _ :: value => (name, some (String.ofList value))

/-- Takes options that share one dash. -/
def Seen.takeShort (grammar : Grammar) (seen : Seen) : List Char → Except Stop Seen
  | [] => .ok seen
  | c :: cs =>
    match grammar.options.find? fun name => name.short = c with
    | none => .error .usage
    | some .config =>
      match cs with
      | [] => seen.takeOption grammar .config none
      | '=' :: value => seen.takeOption grammar .config (some (String.ofList value))
      | value => seen.takeOption grammar .config (some (String.ofList value))
    | some name => do
      let seen ← seen.takeOption grammar name none
      Seen.takeShort grammar seen cs

/-- Takes one argument before `--`. -/
def Seen.take (grammar : Grammar) (seen : Seen) (arg : String) : Except Stop Seen :=
  match arg.toList with
  | '-' :: '-' :: rest =>
    let (name, value) := splitValue rest
    match grammar.options.find? fun option => option.long = name with
    | some name => seen.takeOption grammar name value
    | none => .error .usage
  | '-' :: c :: rest =>
    if grammar.operands[seen.operandCount]? = some .amount && looksLikeNumber (c :: rest) then
      seen.takePlain grammar arg false
    else seen.takeShort grammar (c :: rest)
  | _ => seen.takePlain grammar arg false

/-- Reads the arguments after the name of a command. -/
def readOperands (grammar : Grammar) (seen : Seen) : Bool → List String → Except Stop Seen
  | _, [] => do
    let seen ← seen.settle grammar
    if seen.operands.length < grammar.required then .error .usage else .ok seen
  | true, arg :: args => do
    let seen ← seen.takePlain grammar arg true
    readOperands grammar seen true args
  | false, arg :: args =>
    if arg = "--" then readOperands grammar seen true args
    else do
      let seen ← seen.take grammar arg
      readOperands grammar seen false args

/-- Reads the arguments of a request for help. -/
def readHelp : List String → Stop
  | [] => .help
  | [name] => if name = "help" ∨ (CommandName.ofText? name).isSome then .help else .usage
  | _ => .usage

/-- Reads the arguments before the name of the command, the name, and what follows it. -/
def readOuter (seen : Seen) : List String → Except Stop (Seen × CommandName × Seen)
  | [] => .error .usage
  | arg :: args =>
    let command := if seen.awaitsValue then none else CommandName.ofText? arg
    match command with
    | some name => do
      let inner ← readOperands name.grammar {} false args
      let outer ← seen.settle .outer
      return (outer, name, inner)
    | none =>
      if arg = "help" && !seen.awaitsValue then .error (readHelp args)
      else if arg = "--" then .error .usage
      else do
        let seen ← seen.take .outer arg
        readOuter seen args

/-- The command of a name and the arguments after it. -/
def commandOf? (name : CommandName) (seen : Seen) : Option Command :=
  match name, seen.operands with
  | .resolveType, [native] => some (.resolveType native)
  | .truncate, [granularity, expr] =>
    (Granularity.ofToken? granularity).map fun g => .truncate g expr seen.literal
  | .offset, [unit, amount] => do
    let unit ← IntervalUnit.ofToken? unit
    let amount ← Binary64.ofText? amount
    return .offset unit amount
  | .connection, [] => some .connection
  | .properties, [] => some .properties
  | .timezone, [] => some (.timezone none)
  | .timezone, [zone] => some (.timezone (some zone))
  | _, _ => none

/-- Reads a command line. An option that may stand in both places counts where it stands last for
the configuration, and anywhere for the verbosity. -/
def Invocation.ofArguments (args : List String) : Except Stop Invocation := do
  let (outer, name, inner) ← readOuter {} args
  match commandOf? name inner with
  | some command =>
    return {
      config := inner.config.or outer.config
      verbose := outer.verbose || inner.verbose
      command }
  | none => .error .usage

end SqlDialect.CommandLine
