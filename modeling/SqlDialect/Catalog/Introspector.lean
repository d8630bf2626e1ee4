import SqlDialect.Catalog.FetchError
import SqlDialect.Catalog.Row
import SqlDialect.Catalog.TableSet

/-!
# Introspection

What the transport offers for looking into a database: a description of the tables that it knows by
itself, in the manner of a driver, and the execution of queries. Both may change the state of the
transport.
-/

namespace SqlDialect

/-- The two operations of a transport with state `σ`. -/
structure Introspector (σ : Type) where
  /-- The tables of a database, looked up for the driver of the given name. -/
  describe : String → DatabaseRef → StateM σ (Except FetchError TableSet)
  /-- The rows that a query yields. -/
  execute : DatabaseRef → String → StateM σ (Except FetchError (List Row))

end SqlDialect
