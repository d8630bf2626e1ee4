import SqlDialect.Calendar.Date
import SqlDialect.Calendar.InternetTime
import SqlDialect.Calendar.Layout
import SqlDialect.Calendar.Time
import SqlDialect.Catalog.FetchError
import SqlDialect.Catalog.Introspector
import SqlDialect.Catalog.Merger
import SqlDialect.Catalog.Row
import SqlDialect.Catalog.Stub
import SqlDialect.Catalog.Table
import SqlDialect.Catalog.TableSet
import SqlDialect.Clock
import SqlDialect.CommandLine.Arguments
import SqlDialect.CommandLine.Run
import SqlDialect.CommandLine.Style
import SqlDialect.Config
import SqlDialect.Connection.Params
import SqlDialect.Connection.Spec
import SqlDialect.DataModel
import SqlDialect.Drivers.Driver
import SqlDialect.Drivers.Registry
import SqlDialect.Expr
import SqlDialect.Expr.Printer
import SqlDialect.Expr.TemporalLiteral
import SqlDialect.Files.Path
import SqlDialect.Files.Tree
import SqlDialect.Granularity
import SqlDialect.IntervalUnit
import SqlDialect.Json
import SqlDialect.Json.Printer
import SqlDialect.Json.Reader
import SqlDialect.Json.Record
import SqlDialect.KeyedMap
import SqlDialect.LogicalType
import SqlDialect.LogicalType.NativeName
import SqlDialect.Main
import SqlDialect.Number.Binary64
import SqlDialect.Number.Decimal
import SqlDialect.Number.Layout
import SqlDialect.Number.Shortest
import SqlDialect.Proofs.Calendar.DayNumber
import SqlDialect.Proofs.Calendar.Printed
import SqlDialect.Proofs.Calendar.Starts
import SqlDialect.Proofs.Calendar.Weeks
import SqlDialect.Proofs.Catalog.Merging
import SqlDialect.Proofs.Catalog.Overlapping
import SqlDialect.Proofs.Catalog.Rows
import SqlDialect.Proofs.Clock.NormalForm
import SqlDialect.Proofs.Connection.Flattening
import SqlDialect.Proofs.Engine.Evaluator
import SqlDialect.Proofs.Engine.Floors
import SqlDialect.Proofs.Engine.SameInstant
import SqlDialect.Proofs.Engine.StackedTruncations
import SqlDialect.Proofs.Engine.SundayWeeks
import SqlDialect.Proofs.Engine.TemporalLiterals
import SqlDialect.Proofs.Engine.Timestamp
import SqlDialect.Proofs.Engine.Truncation
import SqlDialect.Proofs.Sql.Grammar
import SqlDialect.Proofs.Sql.ReadBack
import SqlDialect.Proofs.Sql.Reader
import SqlDialect.Proofs.Sql.Tokens
import SqlDialect.RequestError
import SqlDialect.Session
import SqlDialect.Temporal
import SqlDialect.Text.Blank
import SqlDialect.Text.Digits
import SqlDialect.Text.Pieces
import SqlDialect.Text.Quoted
import SqlDialect.Toml.Document
import SqlDialect.Toml.Numbers
import SqlDialect.Toml.Strings
import SqlDialect.Toml.Tree
import SqlDialect.Toml.Value
import SqlDialect.Proofs.Connection.Readings
import SqlDialect.Proofs.Connection.NormalDetails
import SqlDialect.Proofs.Catalog.StubHistories
import SqlDialect.Proofs.Connection.Influence
import SqlDialect.Proofs.Drivers.RegistryHistories
import SqlDialect.Proofs.Catalog.TableSetHistories
import SqlDialect.Proofs.Number.ExactValue
import SqlDialect.Proofs.Number.Decimals
import SqlDialect.Proofs.Number.NearestDecimals
import SqlDialect.Proofs.Number.ShortestDigits
import SqlDialect.Proofs.Sql.Offsets
import SqlDialect.Proofs.CommandLine.Influence
import SqlDialect.Proofs.Json.NumberTexts
import SqlDialect.Proofs.Json.CompactTexts
import SqlDialect.Proofs.Json.RoundTrips
import SqlDialect.Proofs.Sql.TimezoneStatement
import SqlDialect.Proofs.Connection.Addresses
import SqlDialect.Proofs.Connection.Outcomes
import SqlDialect.Proofs.Text.Trimming
import SqlDialect.Proofs.Connection.Ports
import SqlDialect.Proofs.Temporal.Requests
import SqlDialect.Proofs.Engine.Typing
import SqlDialect.Proofs.Temporal.IsoLiterals
import SqlDialect.Proofs.Clock.Order
import SqlDialect.Proofs.LogicalType.Resolution
import SqlDialect.Proofs.Catalog.RefusedRows
import SqlDialect.Proofs.Calendar.Endings
import SqlDialect.Proofs.Temporal.ClockLiterals
import SqlDialect.Proofs.Text.Bytes
import SqlDialect.Proofs.Clock.Zones
import SqlDialect.Proofs.Catalog.StubItems
