import SqlDialect.CommandLine.Arguments
import SqlDialect.CommandLine.Style
import SqlDialect.Config
import SqlDialect.Drivers.Driver
import SqlDialect.Session
import SqlDialect.Temporal

/-!
# Running commands

A command is answered with text for the standard output and the standard error stream and an exit
code. The configuration is loaded before the command runs, also when the command makes no use of
it; without it nothing is written to the standard output.
-/

namespace SqlDialect.CommandLine

/-- What a run leaves behind. -/
structure Result where
  /-- The exit code. -/
  exitCode : Nat
  /-- The text on the standard output. -/
  output : String
  /-- The text on the standard error stream. -/
  report : String
deriving DecidableEq

/-- A line of text. -/
def line (text : String) : String :=
  text ++ "\n"

/-- A run that succeeds. -/
def Result.success (output : String) (report : String := "") : Result :=
  ⟨0, output, report⟩

/-- A run that fails after reporting something. -/
def Result.failure (report message : String) : Result :=
  ⟨1, "", report ++ line ("Error: " ++ message)⟩

/-! ## Configuration -/

/-- The path of the configuration when none is given. -/
def defaultConfigPath : String := "vdialect.toml"

/-- Where the configuration comes from. -/
inductive ConfigSource where
  /-- There is no configuration. -/
  | absent
  /-- The file at a path, with its contents if they can be read. -/
  | file (path : String) (contents : Except ReadFailure ByteArray)

/-- The path of the configuration: the one that is given, else the default one. -/
def Invocation.configPath (invocation : Invocation) : String :=
  invocation.config.getD defaultConfigPath

/-- The source of the configuration, given the contents of the file at its path. It is no fault
that there is no file at the default path. -/
def Invocation.configSource (invocation : Invocation) (contents : Except ReadFailure ByteArray) :
    ConfigSource :=
  match invocation.config, contents with
  | none, .error .notFound => .absent
  | _, contents => .file invocation.configPath contents

/-- The configuration of a source. -/
def ConfigSource.load : ConfigSource → Except ConfigError Config
  | .absent => .ok {}
  | .file path contents => Config.ofFile path contents

/-! ## Commands -/

/-- What a logical type holds. -/
def typeCategory (type : LogicalType) : String :=
  if type.isTemporal then "temporal" else if type.isNumeric then "numeric" else "other"

/-- What an expression at a granularity yields. -/
def granularityKind (granularity : Granularity) : String :=
  if granularity = .default then "unchanged"
  else if granularity.isExtraction then "integer extraction"
  else "timestamp truncation"

/-- The operand of a truncation: a string literal, or a name whose parts stand between points. -/
def operandOf (text : String) (literal : Bool) : Expr :=
  if literal then .string text
  else .identifier ((Text.pieces '.' text.toList).map String.ofList)

/-- The line for a field of a connection. -/
def propertyLine (colours : Bool) (p : ConnectionProperty) : String :=
  let marker := if p.required then styled colours .red "required" else styled colours .dimmed "optional"
  let default := (p.default.map fun value => " (default: " ++ value ++ ")").getD ""
  let sample := (p.placeholder.map fun value =>
    " (e.g. " ++ styled colours .dimmed value ++ ")").getD ""
  line ("  " ++ styled colours .green (padRight 20 p.name) ++ " " ++ padRight 45 p.displayName ++
    " " ++ marker ++ default ++ sample)

/-- Runs a command with a driver and under a configuration. -/
def Command.run (colours verbose : Bool) (driver : ConfiguredDriver) (config : Config) :
    Command → Result
  | .resolveType name =>
    let type := driver.resolveType name
    .success (line (styled colours .bold name ++ " -> " ++ styled colours .green type.display ++
      " " ++ styled colours .dimmed ("(" ++ typeCategory type ++ ")")))
  | .truncate granularity text literal =>
    let report :=
      if verbose then
        line (styled colours .cyan granularity.token ++ " " ++
          styled colours .dimmed (granularityKind granularity))
      else ""
    .success (line ((operandOf text literal).truncate granularity).sql) report
  | .offset unit amount =>
    match Expr.offsetFromNow unit amount with
    | .ok e => .success (line e.sql)
    | .error e => .failure "" e.message
  | .connection =>
    let report :=
      if config.connection.isEmpty then
        line (styled colours .yellow "No [connection] table in config, using defaults")
      else ""
    match ConnectionSpec.ofDetails config.connection with
    | .ok spec =>
      .success (line spec.indented) (report ++ line (styled colours .cyan "URL:" ++ " " ++ spec.url))
    | .error e => .failure report e.message
  | .properties =>
    .success (line (styled colours .bold (driver.displayName ++ " connection properties")) ++
      String.join (driver.properties.map (propertyLine colours)))
  | .timezone zone =>
    match zone.or config.reportTimezone with
    | some zone => .success (line (Session.timezoneStatement zone))
    | none => .failure "" "No timezone given and no report_timezone in config"

/-- The result with a text in front of its report. -/
def Result.afterReport (result : Result) (report : String) : Result :=
  { result with report := report ++ result.report }

/-- Runs a command line that was understood. -/
def Invocation.run (colours : Bool) (invocation : Invocation) (source : ConfigSource) : Result :=
  let report :=
    match source with
    | .absent =>
      if invocation.verbose then
        line (styled colours .yellow "No config file found, using defaults")
      else ""
    | .file .. => ""
  match source.load with
  | .ok config =>
    let driver := ConfiguredDriver.vertica config.catalog
    (invocation.command.run colours invocation.verbose driver config).afterReport report
  | .error e => .failure report e.message

/-! ## Stops -/

/-- What is shown for the version. -/
def versionText : String := "vdialect 0.1.0"

/-- What is shown for help. -/
def helpText : String :=
  "Vertica dialect adapter toolkit\n\nUsage: vdialect [OPTIONS] <COMMAND>\n\nCommands:\n" ++
    "  resolve-type <NAME>\n  truncate [--literal] <GRANULARITY> <EXPR>\n" ++
    "  offset <UNIT> <AMOUNT>\n  connection\n  properties\n  timezone [TIMEZONE]\n\nOptions:\n" ++
    "  -c, --config <CONFIG>\n  -v, --verbose\n  -h, --help\n  -V, --version"

/-- The result when no command is run. -/
def Stop.result : Stop → Result
  | .usage => ⟨2, "", line "error: the command line is not understood; try --help"⟩
  | .help => .success (line helpText)
  | .version => .success (line versionText)

/-- Runs a command line where files are read in a given way. -/
def run (colours : Bool) (read : String → Except ReadFailure ByteArray) (args : List String) :
    Result :=
  match Invocation.ofArguments args with
  | .error stop => stop.result
  | .ok invocation =>
    invocation.run colours (invocation.configSource (read invocation.configPath))

end SqlDialect.CommandLine
