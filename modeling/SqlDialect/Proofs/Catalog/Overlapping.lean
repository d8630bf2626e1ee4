import SqlDialect.Catalog.Stub
import SqlDialect.Proofs.Catalog.Merging

/-!
# Descriptions that overlap in time

The clones of a stub share what they answer from, and a description asks it several times: each of
its steps looks up one thing, or appends to the log, and between two of its steps other descriptions
take theirs. Here a call is taken apart into these steps, and a schedule says which of the calls
under way takes the next one; the delays of the clones are in the schedule. Main statement: whatever
the schedule, each call returns what it returns alone, and all that changes is the log, which gets
the query of each call that asks one.
-/

namespace SqlDialect

/-- A merger is to describe a database for a driver. -/
structure DescribeCall where
  merger : CatalogMerger
  driver : String
  database : DatabaseRef

namespace DescribeCall

/-- The description as a whole. -/
def action (call : DescribeCall) : StateM StubState (Except FetchError TableSet) :=
  call.merger.describe stubIntrospector call.driver call.database

/-- Whether the query is asked: the tables are there, and more are wanted. -/
def asks (call : DescribeCall) (s : StubState) : Bool :=
  (s.described call.database.name).isOk && call.merger.supplementary

/-- How far a call has come, with what it has found so far. -/
inductive Progress where
  | begun
  /-- The database has no failure. -/
  | permitted
  /-- The tables are there, and more are wanted. -/
  | described (base : TableSet)
  /-- The query is in the log. -/
  | noted (base : TableSet)
  /-- The query has no failure. -/
  | accepted (base : TableSet)
  /-- The query has its answer. -/
  | answered (base : TableSet) (answer : Except FetchError (List Row))
  | returned (result : Except FetchError TableSet)

/-- A bound for the number of steps to come. -/
def Progress.remaining : Progress → Nat
  | .begun => 6
  | .permitted => 5
  | .described _ => 4
  | .noted _ => 3
  | .accepted _ => 2
  | .answered _ _ => 1
  | .returned _ => 0

/-- The next step of a call. A call that has returned takes no more. -/
def step? (call : DescribeCall) : Progress → Option (StateM StubState Progress)
  | .begun => some fun s =>
    match s.databaseErrors.find? call.database.name with
    | some error => (.returned (.error error), s)
    | none => (.permitted, s)
  | .permitted => some fun s =>
    match s.schemas.find? call.database.name with
    | some base => (if call.merger.supplementary then .described base else .returned (.ok base), s)
    | none => (.returned (.error ⟨.databaseNotFound, call.database.name⟩), s)
  | .described base => some fun s => (.noted base, s.logged call.merger.query)
  | .noted base => some fun s =>
    match s.queryErrors.find? call.merger.query with
    | some error => (.answered base (.error error), s)
    | none => (.accepted base, s)
  | .accepted base => some fun s =>
    match s.rows.find? call.merger.query with
    | some rows => (.answered base (.ok rows), s)
    | none =>
      (.answered base
        (.error ⟨.query, "no result registered for query: " ++ call.merger.query⟩), s)
  | .answered base answer => some fun s =>
    (.returned (.ok (CatalogMerger.completed base answer)), s)
  | .returned _ => none

theorem eq_returned_of_step?_eq_none {call : DescribeCall} {progress : Progress}
    (h : call.step? progress = none) : ∃ result, progress = .returned result := by
  cases progress with
  | returned result => exact ⟨result, rfl⟩
  | _ => cases h

/-! ## One call -/

section OneCall

variable {call : DescribeCall} {s : StubState}

theorem run_stub {answer : Except FetchError TableSet}
    (h : s.described call.database.name = answer) :
    (stubIntrospector.describe call.driver call.database).run s = (answer, s) := by
  rw [← h]
  rfl

theorem action_of_error {error : FetchError}
    (h : s.described call.database.name = .error error) :
    call.action.run s = (.error error, s) ∧ call.asks s = false := by
  refine ⟨CatalogMerger.run_describe_of_error (run_stub h), ?_⟩
  simp only [asks, h, Except.isOk, Except.toBool, Bool.false_and]

theorem action_of_off {base : TableSet} (h : s.described call.database.name = .ok base)
    (hoff : call.merger.supplementary = false) :
    call.action.run s = (.ok base, s) ∧ call.asks s = false := by
  refine ⟨CatalogMerger.run_describe_of_off (run_stub h) hoff, ?_⟩
  simp only [asks, hoff, Bool.and_false]

theorem action_of_on {base : TableSet} (h : s.described call.database.name = .ok base)
    (hon : call.merger.supplementary = true) :
    call.action.run s =
        (.ok (CatalogMerger.completed base (s.answered call.merger.query)),
          s.logged call.merger.query) ∧
      call.asks s = true := by
  refine ⟨CatalogMerger.run_describe_of_on (run_stub h) hon rfl, ?_⟩
  simp only [asks, h, hon, Except.isOk, Except.toBool, Bool.and_true]

/-- The tables are there, and more are wanted. -/
def WantsMore (call : DescribeCall) (s : StubState) (base : TableSet) : Prop :=
  s.described call.database.name = .ok base ∧ call.merger.supplementary = true

/-- What a call has found is what it finds alone. -/
def Follows (call : DescribeCall) (s : StubState) : Progress → Prop
  | .begun => True
  | .permitted => s.databaseErrors.find? call.database.name = none
  | .described base | .noted base => call.WantsMore s base
  | .accepted base => call.WantsMore s base ∧ s.queryErrors.find? call.merger.query = none
  | .answered base answer => call.WantsMore s base ∧ s.answered call.merger.query = answer
  | .returned result => (call.action.run s).1 = result

/-- What a call has appended to the log. -/
def entries (call : DescribeCall) (s : StubState) : Progress → List String
  | .begun | .permitted | .described _ => []
  | .noted _ | .accepted _ | .answered _ _ => [call.merger.query]
  | .returned _ => if call.asks s then [call.merger.query] else []

/-- What a step does: it keeps to what the call finds alone, appends to the log what it says that it
has appended, and leaves fewer steps to come. -/
structure Advances (call : DescribeCall) (s : StubState) (progress : Progress)
    (added : List String) (progress' : Progress) : Prop where
  follows : call.Follows s progress'
  entries : call.entries s progress' = call.entries s progress ++ added
  remaining : progress'.remaining < progress.remaining

theorem Advances.of_not_asks {progress : Progress} {result : Except FetchError TableSet}
    (h : call.action.run s = (result, s) ∧ call.asks s = false)
    (hentries : call.entries s progress = []) (hremaining : 0 < progress.remaining) :
    call.Advances s progress [] (.returned result) where
  follows := by
    show (call.action.run s).1 = result
    rw [h.1]
  entries := by
    rw [hentries]
    simp only [DescribeCall.entries, h.2, Bool.false_eq_true, if_false, List.append_nil]
  remaining := hremaining

/-- A step of a call, whatever the log is by then: others may have appended to it. -/
theorem Follows.exists_advances {progress : Progress} {step : StateM StubState Progress}
    (h : call.Follows s progress) (hstep : call.step? progress = some step) (log : List String) :
    ∃ progress' added,
      step.run { s with executed := log } = (progress', { s with executed := log ++ added }) ∧
        call.Advances s progress added progress' := by
  cases progress with
  | begun =>
    cases hstep
    cases hfailure : s.databaseErrors.find? call.database.name with
    | some error =>
      have hdescribed := StubState.described_of_failure hfailure
      refine ⟨.returned (.error error), [], ?_, .of_not_asks (action_of_error hdescribed) rfl ?_⟩
      · simp only [StateT.run, hfailure, List.append_nil]
      · exact Nat.zero_lt_succ _
    | none =>
      refine ⟨.permitted, [], ?_, hfailure, rfl, Nat.lt_succ_self _⟩
      simp only [StateT.run, hfailure, List.append_nil]
  | permitted =>
    cases hstep
    cases hschema : s.schemas.find? call.database.name with
    | none =>
      have hdescribed := StubState.described_of_none h hschema
      refine ⟨.returned (.error ⟨.databaseNotFound, call.database.name⟩), [], ?_,
        .of_not_asks (action_of_error hdescribed) rfl ?_⟩
      · simp only [StateT.run, hschema, List.append_nil]
      · exact Nat.zero_lt_succ _
    | some base =>
      have hdescribed := StubState.described_of_some h hschema
      cases hmore : call.merger.supplementary with
      | false =>
        refine ⟨.returned (.ok base), [], ?_, .of_not_asks (action_of_off hdescribed hmore) rfl ?_⟩
        · simp only [StateT.run, hschema, Bool.false_eq_true, if_false, List.append_nil]
        · exact Nat.zero_lt_succ _
      | true =>
        refine ⟨.described base, [], ?_, ⟨hdescribed, hmore⟩, rfl, Nat.lt_succ_self _⟩
        simp only [StateT.run, hschema, if_true, List.append_nil]
  | described base =>
    cases hstep
    exact ⟨.noted base, [call.merger.query], rfl, h, rfl, Nat.lt_succ_self _⟩
  | noted base =>
    cases hstep
    cases hfailure : s.queryErrors.find? call.merger.query with
    | some error =>
      have hanswered := StubState.answered_of_failure hfailure
      refine ⟨.answered base (.error error), [], ?_, ⟨h, hanswered⟩, rfl, ?_⟩
      · simp only [StateT.run, hfailure, List.append_nil]
      · exact Nat.lt_add_of_pos_right Nat.two_pos
    | none =>
      refine ⟨.accepted base, [], ?_, ⟨h, hfailure⟩, rfl, Nat.lt_succ_self _⟩
      simp only [StateT.run, hfailure, List.append_nil]
  | accepted base =>
    cases hstep
    obtain ⟨hbase, hfailure⟩ := h
    cases hrows : s.rows.find? call.merger.query with
    | some rows =>
      have hanswered := StubState.answered_of_some hfailure hrows
      refine ⟨.answered base (.ok rows), [], ?_, ⟨hbase, hanswered⟩, rfl, Nat.lt_succ_self _⟩
      simp only [StateT.run, hrows, List.append_nil]
    | none =>
      have hanswered := StubState.answered_of_none hfailure hrows
      refine ⟨.answered base (.error ⟨.query, _⟩), [], ?_, ⟨hbase, hanswered⟩, rfl,
        Nat.lt_succ_self _⟩
      simp only [StateT.run, hrows, List.append_nil]
  | answered base answer =>
    cases hstep
    obtain ⟨⟨hbase, hon⟩, rfl⟩ := h
    obtain ⟨hrun, hasks⟩ := action_of_on hbase hon
    refine ⟨.returned (.ok (CatalogMerger.completed base (s.answered call.merger.query))), [], ?_,
      congrArg Prod.fst hrun, ?_, Nat.lt_succ_self _⟩
    · simp only [StateT.run, List.append_nil]
    · simp only [DescribeCall.entries, hasks, if_true, List.append_nil]
  | returned result => cases hstep

end OneCall

end DescribeCall

/-! ## Several calls -/

/-- A family of clones and the calls that were made on them, each with how far it has come. -/
structure OpenCalls where
  family : StubFamily
  calls : List (DescribeCall × DescribeCall.Progress)

/-- A family with more entries in the log. -/
def StubFamily.withEntries (family : StubFamily) (added : List String) : StubFamily :=
  { family with state := { family.state with executed := family.state.executed ++ added } }

namespace OpenCalls

/-- The calls before their first steps. -/
def ofCalls (family : StubFamily) (calls : List DescribeCall) : OpenCalls :=
  ⟨family, calls.map fun call => (call, .begun)⟩

/-- The call at a position takes its next step, on the state that all share. -/
def turn? (c : OpenCalls) (i : Nat) : Option OpenCalls := do
  let (call, progress) ← c.calls[i]?
  let step ← call.step? progress
  let (progress', family) := c.family.run step
  return ⟨family, c.calls.set i (call, progress')⟩

/-- The calls at these positions take their next steps, one after the other. -/
def turns? (c : OpenCalls) (schedule : List Nat) : Option OpenCalls :=
  schedule.foldlM turn? c

theorem exists_of_turn? {c c' : OpenCalls} {i : Nat} (h : c.turn? i = some c') :
    ∃ before call progress after step,
      c.calls = before ++ (call, progress) :: after ∧ call.step? progress = some step ∧
        c' = ⟨(c.family.run step).2, before ++ (call, (c.family.run step).1) :: after⟩ := by
  simp only [turn?, Option.bind_eq_bind, Option.bind_eq_some_iff] at h
  obtain ⟨⟨call, progress⟩, hcall, step, hstep, h⟩ := h
  obtain ⟨hi, hcall⟩ := List.getElem?_eq_some_iff.1 hcall
  refine ⟨c.calls.take i, call, progress, c.calls.drop (i + 1), step, ?_, hstep, ?_⟩
  · rw [← hcall, List.getElem_cons_drop, List.take_append_drop]
  · rw [List.set_eq_take_append_cons_drop, if_pos hi] at h
    exact (Option.some.inj h).symm

theorem exists_returned_of_turn? {c : OpenCalls} (h : ∀ i, c.turn? i = none)
    {call : DescribeCall} {progress : DescribeCall.Progress} (hmem : (call, progress) ∈ c.calls) :
    ∃ result, progress = .returned result := by
  obtain ⟨i, hi⟩ := List.mem_iff_getElem?.1 hmem
  apply DescribeCall.eq_returned_of_step?_eq_none
  have hturn := h i
  unfold turn? at hturn
  cases hstep : call.step? progress with
  | none => rfl
  | some step => simp [hi, hstep] at hturn

/-- A bound for the number of steps that calls have to come. -/
def remaining : List (DescribeCall × DescribeCall.Progress) → Nat
  | [] => 0
  | call :: calls => call.2.remaining + remaining calls

theorem remaining_append (calls calls' : List (DescribeCall × DescribeCall.Progress)) :
    remaining (calls ++ calls') = remaining calls + remaining calls' := by
  induction calls with
  | nil => exact (Nat.zero_add _).symm
  | cons call calls ih =>
    simp only [List.cons_append, remaining, ih]
    omega

/-- What the calls have appended to the log, call by call. -/
def entries (c : OpenCalls) (s : StubState) : List String :=
  c.calls.flatMap fun call => call.1.entries s call.2

/-- What holds between any two steps of calls made on a family: each call has found what it finds
alone, and only the log has changed, by what the calls have appended. -/
structure Undisturbed (family : StubFamily) (calls : List DescribeCall) (c : OpenCalls) :
    Prop where
  calls : c.calls.map Prod.fst = calls
  follows : ∀ call ∈ c.calls, call.1.Follows family.state call.2
  log : ∃ added, c.family = family.withEntries added ∧ added.Perm (c.entries family.state)

variable {family : StubFamily} {calls : List DescribeCall} {c c' : OpenCalls}

theorem undisturbed_ofCalls (family : StubFamily) (calls : List DescribeCall) :
    Undisturbed family calls (ofCalls family calls) where
  calls := by
    show (calls.map fun call => (call, DescribeCall.Progress.begun)).map Prod.fst = calls
    rw [List.map_map]
    exact List.map_id calls
  follows := by
    intro call hcall
    obtain ⟨call, -, rfl⟩ := List.mem_map.1 hcall
    trivial
  log := by
    refine ⟨[], ?_, ?_⟩
    · simp [ofCalls, StubFamily.withEntries]
    · simp [entries, ofCalls, DescribeCall.entries]

theorem Undisturbed.turn? {i : Nat} (h : Undisturbed family calls c) (hturn : c.turn? i = some c') :
    Undisturbed family calls c' ∧ remaining c'.calls < remaining c.calls := by
  obtain ⟨before, call, progress, after, step, hcalls, hstep, rfl⟩ := exists_of_turn? hturn
  obtain ⟨log, hfamily, hlog⟩ := h.log
  have hfollows := h.follows
  rw [hcalls, List.forall_mem_append, List.forall_mem_cons] at hfollows
  obtain ⟨hbefore, hcall, hafter⟩ := hfollows
  obtain ⟨progress', added, hrun, hadvances⟩ :=
    hcall.exists_advances hstep (family.state.executed ++ log)
  have hturned : c.family.run step = (progress', family.withEntries (log ++ added)) := by
    rw [hfamily]
    simp only [StubFamily.run, StubFamily.withEntries, hrun, List.append_assoc]
  rw [hturned]
  refine ⟨⟨?_, ?_, log ++ added, rfl, ?_⟩, ?_⟩
  · rw [← h.calls, hcalls, List.map_append, List.map_append, List.map_cons, List.map_cons]
  · rw [List.forall_mem_append, List.forall_mem_cons]
    exact ⟨hbefore, hadvances.follows, hafter⟩
  · have hmoved : (entries c family.state ++ added).Perm
        (entries ⟨family, before ++ (call, progress') :: after⟩ family.state) := by
      simp only [entries, hcalls, List.flatMap_append, List.flatMap_cons, hadvances.entries,
        List.append_assoc]
      -- call by call, what is new stands before what the later calls have appended
      exact (List.perm_append_comm.append_left _).append_left _
    exact (hlog.append_right added).trans hmoved
  · rw [hcalls, remaining_append, remaining_append]
    exact Nat.add_lt_add_left (Nat.add_lt_add_right hadvances.remaining _) _

theorem Undisturbed.turns? {schedule : List Nat} (h : Undisturbed family calls c)
    (hturns : c.turns? schedule = some c') :
    Undisturbed family calls c' ∧
      schedule.length + remaining c'.calls ≤ remaining c.calls := by
  induction schedule generalizing c with
  | nil =>
    cases hturns
    exact ⟨h, by simp⟩
  | cons i schedule ih =>
    obtain ⟨c₁, hturn, hturns⟩ := Option.bind_eq_some_iff.1 hturns
    obtain ⟨h₁, hless⟩ := h.turn? hturn
    obtain ⟨h', hlength⟩ := ih h₁ hturns
    refine ⟨h', ?_⟩
    rw [List.length_cons]
    omega

theorem remaining_ofCalls (family : StubFamily) (calls : List DescribeCall) :
    remaining (ofCalls family calls).calls = 6 * calls.length := by
  show remaining (calls.map fun call => (call, .begun)) = _
  induction calls with
  | nil => rfl
  | cons call calls ih =>
    rw [List.map_cons, remaining, ih, List.length_cons, DescribeCall.Progress.remaining]
    omega

/-- Once no call has a step left, every call has returned what it returns alone. -/
theorem Undisturbed.calls_eq (h : Undisturbed family calls c) (hend : ∀ i, c.turn? i = none) :
    c.calls = calls.map fun call => (call, .returned (family.run call.action).1) := by
  rw [← h.calls, List.map_map]
  refine (List.map_id c.calls).symm.trans (List.map_congr_left ?_)
  rintro ⟨call, progress⟩ hmem
  obtain ⟨result, rfl⟩ := exists_returned_of_turn? hend hmem
  have hresult : (family.run call.action).1 = result := h.follows _ hmem
  show (call, DescribeCall.Progress.returned result) = _
  rw [← hresult]
  rfl

theorem entries_of_returned (hcalls :
    c.calls = calls.map fun call => (call, .returned (family.run call.action).1)) :
    c.entries family.state =
      (calls.filter (·.asks family.state)).map (·.merger.query) := by
  unfold entries
  rw [hcalls]
  clear hcalls
  induction calls with
  | nil => rfl
  | cons call calls ih =>
    rw [List.map_cons, List.flatMap_cons, ih]
    cases hasks : call.asks family.state with
    | true =>
      simp only [DescribeCall.entries, hasks, if_true, List.filter_cons, List.map_cons,
        List.singleton_append]
    | false =>
      simp only [DescribeCall.entries, hasks, Bool.false_eq_true, if_false, List.filter_cons,
        List.nil_append]

theorem run_action_eq (family : StubFamily) (call : DescribeCall) :
    (family.run call.action).2 =
      family.withEntries (if call.asks family.state then [call.merger.query] else []) := by
  show { family with state := (call.action.run family.state).2 } = _
  cases hdescribed : family.state.described call.database.name with
  | error error =>
    obtain ⟨hrun, hasks⟩ := DescribeCall.action_of_error hdescribed
    simp only [hrun, hasks, StubFamily.withEntries, Bool.false_eq_true, if_false, List.append_nil]
  | ok base =>
    cases hmore : call.merger.supplementary with
    | false =>
      obtain ⟨hrun, hasks⟩ := DescribeCall.action_of_off hdescribed hmore
      simp only [hrun, hasks, StubFamily.withEntries, Bool.false_eq_true, if_false,
        List.append_nil]
    | true =>
      obtain ⟨hrun, hasks⟩ := DescribeCall.action_of_on hdescribed hmore
      simp only [hrun, hasks, StubFamily.withEntries, StubState.logged, if_true]

/-- One call alone: its steps, taken one after the other, are the description. -/
theorem eq_run_of_turns? {call : DescribeCall} {schedule : List Nat}
    (h : (ofCalls family [call]).turns? schedule = some c) (hend : ∀ i, c.turn? i = none) :
    c = ⟨(family.run call.action).2, [(call, .returned (family.run call.action).1)]⟩ := by
  obtain ⟨hc, -⟩ := (undisturbed_ofCalls family [call]).turns? h
  have hcalls := hc.calls_eq hend
  obtain ⟨added, hfamily, hadded⟩ := hc.log
  have hentries : c.entries family.state =
      if call.asks family.state then [call.merger.query] else [] := by
    simp only [entries, hcalls, DescribeCall.entries, List.map_cons, List.map_nil,
      List.flatMap_cons, List.flatMap_nil, List.append_nil]
  have hsame : added = c.entries family.state := by
    rw [hentries] at hadded ⊢
    split at hadded
    · rw [if_pos ‹_›]
      exact List.perm_singleton.1 hadded
    · rw [if_neg ‹_›]
      exact List.perm_nil.1 hadded
  obtain ⟨family', calls⟩ := c
  simp only [hsame, hentries] at hfamily
  rw [run_action_eq, ← hfamily]
  simp only at hcalls
  rw [hcalls]
  rfl

/-- Calls that overlap do not get in each other's way. However their steps are interleaved, they
come to an end; then each has returned what it returns alone, and nothing has changed but the log,
which has one more entry for each call that asks its query. -/
theorem calls_do_not_interfere (family : StubFamily) (calls : List DescribeCall)
    {schedule : List Nat} {c : OpenCalls}
    (h : (ofCalls family calls).turns? schedule = some c) :
    schedule.length ≤ 6 * calls.length ∧
    ∃ added, c.family = family.withEntries added ∧
      ((∀ i, c.turn? i = none) →
        c.calls = calls.map (fun call => (call, .returned (family.run call.action).1)) ∧
        added.Perm ((calls.filter (·.asks family.state)).map (·.merger.query))) := by
  obtain ⟨hc, hlength⟩ := (undisturbed_ofCalls family calls).turns? h
  rw [remaining_ofCalls] at hlength
  obtain ⟨added, hfamily, hadded⟩ := hc.log
  refine ⟨by omega, added, hfamily, fun hend => ?_⟩
  have hcalls := hc.calls_eq hend
  rw [entries_of_returned hcalls] at hadded
  exact ⟨hcalls, hadded⟩

/-- Three calls that take turns. The query of the second is noted first and fails, and the third
finds no tables. -/
theorem calls_do_not_interfere_in_turns :
    ∃ (family : StubFamily) (calls : List DescribeCall) (schedule : List Nat) (c : OpenCalls),
      (ofCalls family calls).turns? schedule = some c ∧
      c.calls = calls.map (fun call => (call, .returned (family.run call.action).1)) ∧
      c.family = family.withEntries ["r", "q"] := by
  let base : TableSet := .ofList [⟨"s", "t"⟩]
  let state : StubState :=
    ((StubState.empty.addSchema "d" base).addRows "q" []).addQueryError "r" ⟨.query, "down"⟩
  let family : StubFamily := { members := [{}, { name := "Clone" }], state }
  let first : DescribeCall := ⟨⟨"views", "q", true⟩, "vertica", ⟨"d", .empty⟩⟩
  let second : DescribeCall := ⟨⟨"views", "r", true⟩, "vertica", ⟨"d", .empty⟩⟩
  let third : DescribeCall := ⟨⟨"views", "q", true⟩, "other", ⟨"e", .empty⟩⟩
  let c : OpenCalls :=
    ⟨family.withEntries ["r", "q"],
      [(first, .returned (.ok base)), (second, .returned (.ok base)),
        (third, .returned (.error ⟨.databaseNotFound, "e"⟩))]⟩
  have hturns : (ofCalls family [first, second, third]).turns?
      [0, 1, 0, 1, 2, 1, 0, 2, 1, 0, 1, 0, 0] = some c := rfl
  have hend : ∀ i, c.turn? i = none
    | 0 | 1 | 2 => rfl
    | _ + 3 => rfl
  obtain ⟨-, added, -, hfinished⟩ := calls_do_not_interfere family _ hturns
  exact ⟨family, _, _, c, hturns, (hfinished hend).1, rfl⟩

end OpenCalls
end SqlDialect
