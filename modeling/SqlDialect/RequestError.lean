import SqlDialect.Number.Layout

/-!
# Refused requests

The reasons for which a request is refused before any SQL or connection is built.
-/

namespace SqlDialect

/-- Why a request is refused. -/
inductive RequestError where
  /-- No granularity has this name. -/
  | unknownGranularity (token : String)
  /-- No interval unit has this name. -/
  | unknownIntervalUnit (token : String)
  /-- The amount of an offset is not a whole number, or too large. -/
  | invalidOffsetAmount (amount : Binary64)
  /-- The host is neither a text nor a number; it is shown as it is written in JSON. -/
  | invalidHost (text : String)

/-- The description of the reason. -/
def RequestError.message : RequestError → String
  | .unknownGranularity token => "Unknown temporal granularity: " ++ token
  | .unknownIntervalUnit token => "Unknown interval unit: " ++ token
  | .invalidOffsetAmount amount =>
    "Invalid offset amount: " ++ String.ofList (amount.text .plain) ++
      " (expected a whole number of units)"
  | .invalidHost text => "Invalid host: " ++ text

end SqlDialect
