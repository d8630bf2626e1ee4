import SqlDialect.CommandLine.Run

/-!
# The program

Reads the command line, the configuration file and the environment, and writes what the run leaves
behind.
-/

namespace SqlDialect.Program

/-- The reason for which a file cannot be read. -/
def failureOf : IO.Error → ReadFailure
  | .inappropriateType _ 21 _ => .isADirectory
  | .inappropriateType .. => .notADirectory
  | .permissionDenied .. => .permissionDenied
  | .invalidArgument _ 36 _ => .nameTooLong
  | .invalidArgument .. => .badPath
  | _ => .notFound

/-- The contents of a file. -/
def readFile (path : String) : IO (Except ReadFailure ByteArray) := do
  try
    return .ok (← IO.FS.readBinFile path)
  catch e => return .error (failureOf e)

/-- Whether text is written in colours: if the environment forces it, or if it does not forbid it
and the output is a terminal. -/
def wantsColours : IO Bool := do
  let forced ← IO.getEnv "CLICOLOR_FORCE"
  let refused ← IO.getEnv "NO_COLOR"
  let wanted ← IO.getEnv "CLICOLOR"
  if forced.any (· ≠ "0") then return true
  if refused.isSome then return false
  let terminal ← (← IO.getStdout).isTty
  return wanted.getD "1" ≠ "0" && terminal

end SqlDialect.Program

open SqlDialect SqlDialect.CommandLine in
/-- Runs the command line. -/
def main (args : List String) : IO UInt32 := do
  let colours ← Program.wantsColours
  let result ←
    match Invocation.ofArguments args with
    | .error stop => pure stop.result
    | .ok invocation => do
      let contents ← Program.readFile invocation.configPath
      pure (invocation.run colours (invocation.configSource contents))
  IO.eprint result.report
  IO.print result.output
  return UInt32.ofNat result.exitCode
