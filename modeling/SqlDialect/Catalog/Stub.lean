import SqlDialect.Catalog.Merger

/-!
# Stub introspectors

An introspector that answers from what was put into it, for trying out a merger without a database.
A stub can be cloned; the clones share what they answer from and the log of executed queries, and
each has a name and a delay of its own.
-/

namespace SqlDialect

/-- What the clones of a stub share. -/
structure StubState where
  /-- The tables by database. -/
  schemas : KeyedMap TableSet := .empty
  /-- The failures by database; they come before the tables. -/
  databaseErrors : KeyedMap FetchError := .empty
  /-- The rows by query. -/
  rows : KeyedMap (List Row) := .empty
  /-- The failures by query; they come before the rows. -/
  queryErrors : KeyedMap FetchError := .empty
  /-- The queries in the order in which they were executed, failed ones included. -/
  executed : List String := []

/-- What each clone of a stub has for itself. -/
structure StubHandle where
  /-- The name of the clone. -/
  name : String := "Mock"
  /-- The delay before each answer, in milliseconds. -/
  latency : Nat := 0
deriving DecidableEq

namespace StubState

/-- The stub that knows nothing. -/
def empty : StubState := {}

instance : Inhabited StubState := ⟨empty⟩

/-! ## Configuration -/

/-- Puts in the tables of a database. -/
def addSchema (database : String) (tables : TableSet) (s : StubState) : StubState :=
  { s with schemas := s.schemas.insert database tables }

/-- Lets the description of a database fail. -/
def addDatabaseError (database : String) (error : FetchError) (s : StubState) : StubState :=
  { s with databaseErrors := s.databaseErrors.insert database error }

/-- Puts in the rows that a query yields. -/
def addRows (sql : String) (rows : List Row) (s : StubState) : StubState :=
  { s with rows := s.rows.insert sql rows }

/-- Lets a query fail. -/
def addQueryError (sql : String) (error : FetchError) (s : StubState) : StubState :=
  { s with queryErrors := s.queryErrors.insert sql error }

/-- Takes out everything that was put in, and the log. -/
def clear (_ : StubState) : StubState :=
  empty

/-! ## Answers -/

/-- The description of a database: its failure, else its tables. -/
def described (s : StubState) (database : String) : Except FetchError TableSet :=
  match s.databaseErrors.find? database with
  | some error => .error error
  | none =>
    match s.schemas.find? database with
    | some tables => .ok tables
    | none => .error ⟨.databaseNotFound, database⟩

/-- The answer to a query: its failure, else its rows. -/
def answered (s : StubState) (sql : String) : Except FetchError (List Row) :=
  match s.queryErrors.find? sql with
  | some error => .error error
  | none =>
    match s.rows.find? sql with
    | some rows => .ok rows
    | none => .error ⟨.query, "no result registered for query: " ++ sql⟩

/-- Notes that a query was executed. -/
def logged (sql : String) (s : StubState) : StubState :=
  { s with executed := s.executed ++ [sql] }

variable {s : StubState} {database sql : String}

theorem described_of_failure {error : FetchError}
    (h : s.databaseErrors.find? database = some error) : s.described database = .error error := by
  simp only [described, h]

theorem described_of_some {tables : TableSet} (hfailure : s.databaseErrors.find? database = none)
    (h : s.schemas.find? database = some tables) : s.described database = .ok tables := by
  simp only [described, hfailure, h]

theorem described_of_none (hfailure : s.databaseErrors.find? database = none)
    (h : s.schemas.find? database = none) :
    s.described database = .error ⟨.databaseNotFound, database⟩ := by
  simp only [described, hfailure, h]

theorem answered_of_failure {error : FetchError} (h : s.queryErrors.find? sql = some error) :
    s.answered sql = .error error := by
  simp only [answered, h]

theorem answered_of_some {rows : List Row} (hfailure : s.queryErrors.find? sql = none)
    (h : s.rows.find? sql = some rows) : s.answered sql = .ok rows := by
  simp only [answered, hfailure, h]

theorem answered_of_none (hfailure : s.queryErrors.find? sql = none)
    (h : s.rows.find? sql = none) :
    s.answered sql = .error ⟨.query, "no result registered for query: " ++ sql⟩ := by
  simp only [answered, hfailure, h]

end StubState

/-- The introspector that answers from the shared state, for whatever driver. A query is noted before
it is answered. -/
def stubIntrospector : Introspector StubState where
  describe _ database := fun s => (s.described database.name, s)
  execute _ sql := fun s => (s.answered sql, s.logged sql)

/-! ## Building a stub from a list of items -/

/-- One item of the configuration of a stub. -/
inductive StubItem where
  | schema (database : String) (tables : TableSet)
  | databaseError (database : String) (error : FetchError)
  | rows (sql : String) (rows : List Row)
  | queryError (sql : String) (error : FetchError)
  | name (name : String)
  | latency (milliseconds : Nat)

/-- A stub under construction: the entries of each kind, the latest first, and the identity. -/
structure StubBuilder where
  /-- The tables of databases. -/
  schemas : List (String × TableSet) := []
  /-- The failures of databases. -/
  databaseErrors : List (String × FetchError) := []
  /-- The rows of queries. -/
  rows : List (String × List Row) := []
  /-- The failures of queries. -/
  queryErrors : List (String × FetchError) := []
  /-- The name and the delay. -/
  handle : StubHandle := {}

namespace StubBuilder

/-- Adds an item. -/
def add (b : StubBuilder) : StubItem → StubBuilder
  | .schema database tables => { b with schemas := (database, tables) :: b.schemas }
  | .databaseError database error =>
    { b with databaseErrors := (database, error) :: b.databaseErrors }
  | .rows sql rows => { b with rows := (sql, rows) :: b.rows }
  | .queryError sql error => { b with queryErrors := (sql, error) :: b.queryErrors }
  | .name name => { b with handle := { b.handle with name } }
  | .latency latency => { b with handle := { b.handle with latency } }

/-- The builder with all items of a list. -/
def ofItems (items : List StubItem) : StubBuilder :=
  items.foldl add {}

/-- The finished stub. Of two entries with one key the later counts, and no query was executed
yet. -/
def build (b : StubBuilder) : StubHandle × StubState :=
  (b.handle,
    { schemas := .ofList b.schemas.reverse
      databaseErrors := .ofList b.databaseErrors.reverse
      rows := .ofList b.rows.reverse
      queryErrors := .ofList b.queryErrors.reverse })

end StubBuilder

/-- Puts an item into a stub that is in use. -/
def StubItem.apply : StubItem → StubHandle × StubState → StubHandle × StubState
  | .schema database tables, (h, s) => (h, s.addSchema database tables)
  | .databaseError database error, (h, s) => (h, s.addDatabaseError database error)
  | .rows sql answer, (h, s) => (h, s.addRows sql answer)
  | .queryError sql error, (h, s) => (h, s.addQueryError sql error)
  | .name chosen, (h, s) => ({ h with name := chosen }, s)
  | .latency delay, (h, s) => ({ h with latency := delay }, s)

/-! ## Families of clones -/

/-- The clones of a stub and the state that they share. -/
structure StubFamily where
  /-- What each clone has for itself, in the order in which they were made. -/
  members : List StubHandle := [{}]
  /-- The shared state. -/
  state : StubState := {}

namespace StubFamily

/-- Adds a clone of a member. -/
def clone (family : StubFamily) (member : Nat) : StubFamily :=
  match family.members[member]? with
  | some handle => { family with members := family.members ++ [handle] }
  | none => family

/-- Changes what a member has for itself. -/
def modifyMember (family : StubFamily) (member : Nat) (change : StubHandle → StubHandle) :
    StubFamily :=
  { family with members := family.members.modify member change }

/-- Runs an operation on the shared state. -/
def run {α : Type} (family : StubFamily) (action : StateM StubState α) : α × StubFamily :=
  let (answer, state) := action.run family.state
  (answer, { family with state })

end StubFamily
end SqlDialect
