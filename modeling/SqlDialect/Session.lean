import SqlDialect.Expr.Printer
import SqlDialect.Text.Pieces

/-!
# Session statements

The statements that a session starts with: setting its time zone, and asking for the engine's time.
-/

namespace SqlDialect.Session

/-- The statement that sets the time zone; the zone, as a string literal, takes the place of
`%s`. -/
def timezoneTemplate : String := "SET TIME ZONE TO %s;"

/-- The query for the engine's time. -/
def clockQuery : String := "select to_char(CURRENT_TIMESTAMP, 'YYYY-MM-DD HH24:MI:SS TZ')"

/-- The layout of the answer to `clockQuery`. -/
def clockFormat : String := "%Y-%m-%d %H:%M:%S %Z"

/-- The statement that sets the time zone to the one of this name. -/
def timezoneStatement (zone : String) : String :=
  String.ofList
    (Text.fillIn '%' 's' (Literal.string zone).chars timezoneTemplate.toList)

end SqlDialect.Session
