import SqlDialect.Catalog.Stub
import SqlDialect.Proofs.Histories

/-!
# Stubs and their histories

What a stub answers depends on what was done to any of its clones since they were cleared, and on
nothing else: a failure that was put in comes before tables or rows, and of two values with one key
the later counts. Main statement: so it is after any operations, through whichever clones they went.
-/

namespace SqlDialect

/-- What can be done to a clone of a stub. -/
inductive StubOperation where
  | addSchema (database : String) (tables : TableSet)
  | addDatabaseError (database : String) (error : FetchError)
  | addRows (sql : String) (rows : List Row)
  | addQueryError (sql : String) (error : FetchError)
  | describe (driver : String) (database : DatabaseRef)
  | execute (database : DatabaseRef) (sql : String)
  | executedQueries
  | clear
  | clone
  | withName (name : String)
  | withLatency (milliseconds : Nat)

/-- What comes back from an operation. -/
inductive StubAnswer where
  | done
  | described (answer : Except FetchError TableSet)
  | rows (answer : Except FetchError (List Row))
  | queries (executed : List String)

namespace StubOperation

/-- The part of an operation that all clones notice. -/
def onState : StubOperation → StateM StubState StubAnswer
  | addSchema database tables => fun s => (.done, s.addSchema database tables)
  | addDatabaseError database error => fun s => (.done, s.addDatabaseError database error)
  | addRows sql rows => fun s => (.done, s.addRows sql rows)
  | addQueryError sql error => fun s => (.done, s.addQueryError sql error)
  | describe driver database => .described <$> stubIntrospector.describe driver database
  | execute database sql => .rows <$> stubIntrospector.execute database sql
  | executedQueries => fun s => (.queries s.executed, s)
  | clear => fun s => (.done, s.clear)
  | clone | withName _ | withLatency _ => pure .done

/-- The part of an operation that has to do with the clones as such. -/
def onMembers (member : Nat) (family : StubFamily) : StubOperation → StubFamily
  | clone => family.clone member
  | withName name => family.modifyMember member fun handle => { handle with name }
  | withLatency latency => family.modifyMember member fun handle => { handle with latency }
  | _ => family

def isClone : StubOperation → Bool
  | clone => true
  | _ => false

end StubOperation

namespace StubFamily

/-- An operation on a member, if there is that member. -/
def perform? (family : StubFamily) (member : Nat) (operation : StubOperation) :
    Option (StubAnswer × StubFamily) :=
  if member < family.members.length then
    let (answer, changed) := family.run operation.onState
    some (answer, operation.onMembers member changed)
  else none

/-- Operations one after another, each on its member. -/
def performAll? : StubFamily → List (Nat × StubOperation) → Option (List StubAnswer × StubFamily)
  | family, [] => some ([], family)
  | family, (member, operation) :: steps => do
    let (answer, family) ← family.perform? member operation
    let (answers, family) ← family.performAll? steps
    return (answer :: answers, family)

end StubFamily

/-! ## What a history says -/

namespace StubOperation

def isClear : StubOperation → Bool
  | clear => true
  | _ => false

def schemaPut? : StubOperation → Option (String × TableSet)
  | addSchema database tables => some (database, tables)
  | _ => none

def databaseErrorPut? : StubOperation → Option (String × FetchError)
  | addDatabaseError database error => some (database, error)
  | _ => none

def rowsPut? : StubOperation → Option (String × List Row)
  | addRows sql rows => some (sql, rows)
  | _ => none

def queryErrorPut? : StubOperation → Option (String × FetchError)
  | addQueryError sql error => some (sql, error)
  | _ => none

def executed? : StubOperation → Option String
  | execute _ sql => some sql
  | _ => none

end StubOperation

/-- What was done since the clones were last cleared. -/
def sinceClear (history : List StubOperation) : List StubOperation :=
  sinceLast StubOperation.isClear history

/-- A failure if there is one, else a value. -/
def firstOutcome {α : Type} (failure : Option FetchError) (value : Option α)
    (missing : FetchError) : Except FetchError α :=
  match failure, value with
  | some error, _ => .error error
  | none, some value => .ok value
  | none, none => .error missing

/-- The last failure of a database, else its last tables. -/
def describedAfter (history : List StubOperation) (database : String) :
    Except FetchError TableSet :=
  firstOutcome
    (lastUnder? database ((sinceClear history).filterMap StubOperation.databaseErrorPut?))
    (lastUnder? database ((sinceClear history).filterMap StubOperation.schemaPut?))
    ⟨.databaseNotFound, database⟩

/-- The last failure of a query, else its last rows. -/
def answeredAfter (history : List StubOperation) (sql : String) : Except FetchError (List Row) :=
  firstOutcome
    (lastUnder? sql ((sinceClear history).filterMap StubOperation.queryErrorPut?))
    (lastUnder? sql ((sinceClear history).filterMap StubOperation.rowsPut?))
    ⟨.query, "no result registered for query: " ++ sql⟩

/-- The queries, failed ones included. -/
def executedAfter (history : List StubOperation) : List String :=
  (sinceClear history).filterMap StubOperation.executed?

/-- The answer to an operation that comes after a history. -/
def StubOperation.answerAfter (history : List StubOperation) : StubOperation → StubAnswer
  | describe _ database => .described (describedAfter history database.name)
  | execute _ sql => .rows (answeredAfter history sql)
  | executedQueries => .queries (executedAfter history)
  | _ => .done

/-! ## One operation -/

namespace StubState

/-- The state that a history leads to. -/
def ofHistory (history : List StubOperation) : StubState where
  schemas := .ofList ((sinceClear history).filterMap StubOperation.schemaPut?)
  databaseErrors := .ofList ((sinceClear history).filterMap StubOperation.databaseErrorPut?)
  rows := .ofList ((sinceClear history).filterMap StubOperation.rowsPut?)
  queryErrors := .ofList ((sinceClear history).filterMap StubOperation.queryErrorPut?)
  executed := executedAfter history

variable (history : List StubOperation)

theorem described_eq (s : StubState) (database : String) :
    s.described database = firstOutcome (s.databaseErrors.find? database)
      (s.schemas.find? database) ⟨.databaseNotFound, database⟩ := by
  cases hfailure : s.databaseErrors.find? database with
  | some error => exact described_of_failure hfailure
  | none =>
    cases htables : s.schemas.find? database with
    | some tables => exact described_of_some hfailure htables
    | none => exact described_of_none hfailure htables

theorem answered_eq (s : StubState) (sql : String) :
    s.answered sql = firstOutcome (s.queryErrors.find? sql) (s.rows.find? sql)
      ⟨.query, "no result registered for query: " ++ sql⟩ := by
  cases hfailure : s.queryErrors.find? sql with
  | some error => exact answered_of_failure hfailure
  | none =>
    cases hrows : s.rows.find? sql with
    | some rows => exact answered_of_some hfailure hrows
    | none => exact answered_of_none hfailure hrows

theorem described_ofHistory (database : String) :
    (ofHistory history).described database = describedAfter history database := by
  rw [described_eq, describedAfter]
  exact congrArg₂ (firstOutcome · · _) (KeyedMap.find?_ofList_eq_lastUnder? _ _)
    (KeyedMap.find?_ofList_eq_lastUnder? _ _)

theorem answered_ofHistory (sql : String) :
    (ofHistory history).answered sql = answeredAfter history sql := by
  rw [answered_eq, answeredAfter]
  exact congrArg₂ (firstOutcome · · _) (KeyedMap.find?_ofList_eq_lastUnder? _ _)
    (KeyedMap.find?_ofList_eq_lastUnder? _ _)

theorem ofHistory_clear : ofHistory (history ++ [.clear]) = empty := by
  have hsince : sinceClear (history ++ [.clear]) = [] := sinceLast_concat_of_reset rfl
  simp only [ofHistory, executedAfter, hsince, List.filterMap_nil]
  rfl

/-- An operation other than clearing adds at most one entry to each part of the state. -/
theorem ofHistory_concat {operation : StubOperation} (h : operation.isClear = false) :
    ofHistory (history ++ [operation]) =
      { schemas := operation.schemaPut?.elim (ofHistory history).schemas fun entry =>
          (ofHistory history).schemas.insert entry.1 entry.2
        databaseErrors := operation.databaseErrorPut?.elim (ofHistory history).databaseErrors
          fun entry => (ofHistory history).databaseErrors.insert entry.1 entry.2
        rows := operation.rowsPut?.elim (ofHistory history).rows fun entry =>
          (ofHistory history).rows.insert entry.1 entry.2
        queryErrors := operation.queryErrorPut?.elim (ofHistory history).queryErrors fun entry =>
          (ofHistory history).queryErrors.insert entry.1 entry.2
        executed := operation.executed?.elim (ofHistory history).executed fun sql =>
          (ofHistory history).executed ++ [sql] } := by
  have hsince : sinceClear (history ++ [operation]) = sinceClear history ++ [operation] :=
    sinceLast_concat_of_not_reset h
  simp only [ofHistory, executedAfter, hsince, KeyedMap.ofList_filterMap_concat]
  rw [filterMap_concat]

/-- An operation answers from the history, and then belongs to it. -/
theorem run_onState (operation : StubOperation) :
    operation.onState.run (ofHistory history) =
      (operation.answerAfter history, ofHistory (history ++ [operation])) := by
  cases operation with
  | clear =>
    rw [ofHistory_clear]
    rfl
  | describe driver database =>
    rw [ofHistory_concat history rfl, StubOperation.answerAfter, ← described_ofHistory]
    rfl
  | execute database sql =>
    rw [ofHistory_concat history rfl, StubOperation.answerAfter, ← answered_ofHistory]
    rfl
  | _ =>
    rw [ofHistory_concat history rfl]
    rfl

end StubState

/-! ## Many operations -/

namespace StubFamily

/-- A family whose members came to their state through a history. -/
structure Recalls (family : StubFamily) (history : List StubOperation) : Prop where
  state : family.state = .ofHistory history
  members : family.members.length = 1 + history.countP StubOperation.isClone

theorem recalls_new : Recalls {} [] where
  state := rfl
  members := rfl

variable {family : StubFamily} {history : List StubOperation} {member : Nat}

theorem state_onMembers (family : StubFamily) (operation : StubOperation) :
    (operation.onMembers member family).state = family.state := by
  cases operation with
  | clone =>
    show (family.clone member).state = family.state
    unfold clone
    split <;> rfl
  | _ => rfl

theorem length_onMembers (family : StubFamily) (operation : StubOperation)
    (h : member < family.members.length) :
    (operation.onMembers member family).members.length =
      family.members.length + if operation.isClone then 1 else 0 := by
  cases operation with
  | clone =>
    show (family.clone member).members.length = family.members.length + 1
    unfold clone
    rw [List.getElem?_eq_getElem h]
    exact List.length_append
  | withName name => exact List.length_modify _ _ _
  | withLatency latency => exact List.length_modify _ _ _
  | _ => rfl

/-- Every member of a family can carry out every operation, and all give the same answer. -/
theorem Recalls.perform? (h : family.Recalls history) (hmember : member < family.members.length)
    (operation : StubOperation) :
    ∃ family', family.perform? member operation = some (operation.answerAfter history, family') ∧
      family'.Recalls (history ++ [operation]) := by
  let changed : StubFamily := { family with state := .ofHistory (history ++ [operation]) }
  have hrun : family.run operation.onState = (operation.answerAfter history, changed) := by
    unfold StubFamily.run
    rw [h.state, StubState.run_onState]
  refine ⟨operation.onMembers member changed, ?_, ?_, ?_⟩
  · rw [StubFamily.perform?, if_pos hmember, hrun]
  · rw [state_onMembers]
  · rw [length_onMembers changed operation hmember, List.countP_append, List.countP_singleton,
      ← Nat.add_assoc, ← h.members]

theorem Recalls.performAll? {steps : List (Nat × StubOperation)} {answers : List StubAnswer}
    {family' : StubFamily} (h : family.Recalls history)
    (hsteps : family.performAll? steps = some (answers, family')) :
    answers = answersAfter StubOperation.answerAfter history (steps.map Prod.snd) ∧
      family'.Recalls (history ++ steps.map Prod.snd) := by
  induction steps generalizing family history answers with
  | nil =>
    cases hsteps
    rw [List.map_nil, List.append_nil]
    exact ⟨rfl, h⟩
  | cons step steps ih =>
    obtain ⟨member, operation⟩ := step
    simp only [StubFamily.performAll?, Option.bind_eq_bind, Option.bind_eq_some_iff,
      Option.pure_def, Option.some.injEq, Prod.mk.injEq] at hsteps
    obtain ⟨⟨answer, middle⟩, hstep, ⟨rest, last⟩, hrest, rfl, rfl⟩ := hsteps
    have hmember : member < family.members.length := by
      apply Decidable.byContradiction
      intro hnot
      rw [StubFamily.perform?, if_neg hnot] at hstep
      cases hstep
    obtain ⟨middle', hperform, hmiddle⟩ := h.perform? hmember operation
    rw [hstep] at hperform
    cases hperform
    obtain ⟨hanswers, hlast⟩ := ih hmiddle hrest
    rw [List.append_assoc] at hlast
    exact ⟨congrArg _ hanswers, hlast⟩

/-- The answers of clones to any operations are those that the history of the operations says, with
no regard to which clone each operation went through; and whatever was done, each clone that was
made can carry out any operation, and it too is answered from the history. -/
theorem answers_from_history {steps : List (Nat × StubOperation)} {answers : List StubAnswer}
    {family : StubFamily} (h : performAll? {} steps = some (answers, family)) :
    answers = answersAfter StubOperation.answerAfter [] (steps.map Prod.snd) ∧
      family.members.length = 1 + (steps.map Prod.snd).countP StubOperation.isClone ∧
      (∀ member < family.members.length, ∀ operation : StubOperation,
        ∃ family', family.perform? member operation =
          some (operation.answerAfter (steps.map Prod.snd), family')) ∧
      ∀ (others : List (Nat × StubOperation)) (answers' : List StubAnswer) (family' : StubFamily),
        others.map Prod.snd = steps.map Prod.snd →
        performAll? {} others = some (answers', family') →
        answers' = answers := by
  obtain ⟨hanswers, hfamily⟩ := recalls_new.performAll? h
  refine ⟨hanswers, hfamily.members, ?_, ?_⟩
  · intro member hmember operation
    obtain ⟨family', hperform, -⟩ := hfamily.perform? hmember operation
    exact ⟨family', hperform⟩
  · intro others answers' family' hsame hothers
    obtain ⟨hanswers', -⟩ := recalls_new.performAll? hothers
    rw [hanswers', hsame, hanswers]

/-- Rows that are put in after a failure of their query do not hide it, and a clearing through one
clone holds for the other. -/
theorem answers_from_history_of_two_clones :
    let operations : List StubOperation :=
      [.clone, .addQueryError "q" ⟨.network, "down"⟩, .addRows "q" [], .execute ⟨"d", .empty⟩ "q",
        .executedQueries, .clear, .execute ⟨"d", .empty⟩ "r", .addRows "q" [], .executedQueries]
    let answers : List StubAnswer :=
      [.done, .done, .done, .rows (.error ⟨.network, "down"⟩), .queries ["q"], .done,
        .rows (.error ⟨.query, "no result registered for query: r"⟩), .done, .queries ["r"]]
    ∃ family family' family'' : StubFamily,
      performAll? {} ([0, 0, 1, 1, 0, 0, 1, 1, 0].zip operations) = some (answers, family) ∧
      family.perform? 1 (.execute ⟨"d", .empty⟩ "q") = some (.rows (.ok []), family') ∧
      performAll? {} ([0, 1, 0, 0, 1, 1, 1, 0, 1].zip operations) = some (answers, family'') := by
  intro operations answers
  obtain ⟨family, hsteps⟩ : ∃ family : StubFamily,
      performAll? {} ([0, 0, 1, 1, 0, 0, 1, 1, 0].zip operations) = some (answers, family) :=
    ⟨_, rfl⟩
  obtain ⟨answers', family'', hothers⟩ : ∃ (answers' : List StubAnswer) (family'' : StubFamily),
      performAll? {} ([0, 1, 0, 0, 1, 1, 1, 0, 1].zip operations) = some (answers', family'') :=
    ⟨_, _, rfl⟩
  obtain ⟨-, hmembers, hperform, hsame⟩ := answers_from_history hsteps
  have hmember : 1 < family.members.length := by
    rw [hmembers]
    decide
  obtain ⟨family', hfound⟩ := hperform 1 hmember (.execute ⟨"d", .empty⟩ "q")
  have hoperations : ([0, 1, 0, 0, 1, 1, 1, 0, 1].zip operations).map Prod.snd =
      ([0, 0, 1, 1, 0, 0, 1, 1, 0].zip operations).map Prod.snd := rfl
  have hanswers : answers' = answers := hsame _ answers' family'' hoperations hothers
  rw [hanswers] at hothers
  exact ⟨family, family', family'', hsteps, hfound, hothers⟩

end StubFamily
end SqlDialect
