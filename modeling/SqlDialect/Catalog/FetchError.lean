/-!
# Failures to fetch

The ways in which asking a database for its tables or for rows can fail.
-/

namespace SqlDialect

/-- The kind of a failure. -/
inductive FetchFailure where
  | authentication
  | databaseNotFound
  | permissionDenied
  | query
  | invalidResponse
  | network
  | configuration
deriving DecidableEq, Repr

/-- A failure and what is known about it. -/
structure FetchError where
  /-- The kind of the failure. -/
  kind : FetchFailure
  /-- What is known about it. -/
  detail : String
deriving DecidableEq

/-- What a failure of this kind is called in messages. -/
def FetchFailure.heading : FetchFailure → String
  | .authentication => "Authentication failed"
  | .databaseNotFound => "Database not found"
  | .permissionDenied => "Permission denied"
  | .query => "Query failed"
  | .invalidResponse => "Invalid response"
  | .network => "Network error"
  | .configuration => "Configuration error"

/-- The description of a failure. -/
def FetchError.message (e : FetchError) : String :=
  e.kind.heading ++ ": " ++ e.detail

end SqlDialect
