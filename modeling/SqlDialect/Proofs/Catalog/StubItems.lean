import SqlDialect.Proofs.Catalog.StubHistories

/-!
# Stubs made of items

A stub is built at once from a list of items, or the items are put into a new stub one by one. What
an item decides is its slot; either way the stub holds in each slot the last item for it. Main
statement: both stubs give the same replies from then on, whatever is asked of them, and so does a
stub that was made of the items in another order in which each slot has its items as before.
-/

namespace SqlDialect

/-- What an item decides: its kind, and the key for the kinds that have keys. -/
inductive StubSlot where
  | schema (database : String)
  | databaseError (database : String)
  | rows (sql : String)
  | queryError (sql : String)
  | name
  | latency
deriving DecidableEq

namespace StubItem

def slot : StubItem → StubSlot
  | schema database _ => .schema database
  | databaseError database _ => .databaseError database
  | rows sql _ => .rows sql
  | queryError sql _ => .queryError sql
  | name _ => .name
  | latency _ => .latency

/-- The operation that puts an item into a stub. -/
def operation : StubItem → StubOperation
  | schema database tables => .addSchema database tables
  | databaseError database error => .addDatabaseError database error
  | rows sql answer => .addRows sql answer
  | queryError sql error => .addQueryError sql error
  | name chosen => .withName chosen
  | latency delay => .withLatency delay

/-- Puts in items one after another. -/
def applyAll (items : List StubItem) (stub : StubHandle × StubState) : StubHandle × StubState :=
  items.foldl (fun stub item => item.apply stub) stub

end StubItem

/-- The last item for a slot. -/
def lastFor? (slot : StubSlot) (items : List StubItem) : Option StubItem :=
  (items.filter fun item => item.slot = slot).getLast?

/-- Neighbours in different slots may change places. -/
theorem filter_slot_swap {item other : StubItem} (h : item.slot ≠ other.slot)
    (before after : List StubItem) (slot : StubSlot) :
    (before ++ other :: item :: after).filter (fun item => item.slot = slot) =
      (before ++ item :: other :: after).filter fun item => item.slot = slot := by
  rw [List.filter_append, List.filter_append]
  by_cases hitem : item.slot = slot
  · have hother : other.slot ≠ slot := fun heq => h (hitem.trans heq.symm)
    simp [hitem, hother]
  · simp [List.filter_cons, hitem]

/-! ## What a stub holds -/

/-- The item that a stub holds in a slot. -/
def StubSlot.held? (stub : StubHandle × StubState) : StubSlot → Option StubItem
  | schema database => (stub.2.schemas.find? database).map (.schema database)
  | databaseError database => (stub.2.databaseErrors.find? database).map (.databaseError database)
  | rows sql => (stub.2.rows.find? sql).map (.rows sql)
  | queryError sql => (stub.2.queryErrors.find? sql).map (.queryError sql)
  | name => some (.name stub.1.name)
  | latency => some (.latency stub.1.latency)

section Entries

variable {α β : Type} {f : String → α → β}

theorem KeyedMap.map_find?_insert (map : KeyedMap α) (key other : String) (value : α) :
    ((map.insert key value).find? other).map (f other) =
      if key = other then some (f key value) else (map.find? other).map (f other) := by
  rw [find?_insert]
  by_cases hkey : key = other
  · rw [if_pos hkey, if_pos hkey, hkey]
    rfl
  · rw [if_neg hkey, if_neg hkey]

theorem KeyedMap.ext_map_find? {first second : KeyedMap α}
    (hf : ∀ key, Function.Injective (f key))
    (h : ∀ key, (first.find? key).map (f key) = (second.find? key).map (f key)) :
    first = second := by
  apply ext_find?
  intro key
  exact Option.map_injective (hf key) (h key)

end Entries

namespace StubItem

variable {stub stub' : StubHandle × StubState}

/-- An item takes the place of the one in its slot, and leaves the other slots alone. -/
theorem held?_apply (item : StubItem) (stub : StubHandle × StubState) (slot : StubSlot) :
    slot.held? (item.apply stub) = if item.slot = slot then some item else slot.held? stub := by
  cases item with
  | schema database tables =>
    cases slot with
    | schema other =>
      simp only [StubItem.slot, StubSlot.schema.injEq]
      exact stub.2.schemas.map_find?_insert database other tables
    | _ => rfl
  | databaseError database error =>
    cases slot with
    | databaseError other =>
      simp only [StubItem.slot, StubSlot.databaseError.injEq]
      exact stub.2.databaseErrors.map_find?_insert database other error
    | _ => rfl
  | rows sql answer =>
    cases slot with
    | rows other =>
      simp only [StubItem.slot, StubSlot.rows.injEq]
      exact stub.2.rows.map_find?_insert sql other answer
    | _ => rfl
  | queryError sql error =>
    cases slot with
    | queryError other =>
      simp only [StubItem.slot, StubSlot.queryError.injEq]
      exact stub.2.queryErrors.map_find?_insert sql other error
    | _ => rfl
  | name chosen => cases slot <;> rfl
  | latency delay => cases slot <;> rfl

theorem executed_apply (item : StubItem) (stub : StubHandle × StubState) :
    (item.apply stub).2.executed = stub.2.executed := by
  cases item <;> rfl

/-- Nothing but its slots and its log can be seen in a stub. -/
theorem ext_held? (h : ∀ slot : StubSlot, slot.held? stub = slot.held? stub')
    (hexecuted : stub.2.executed = stub'.2.executed) : stub = stub' := by
  obtain ⟨⟨name, latency⟩, schemas, databaseErrors, rows, queryErrors, executed⟩ := stub
  obtain ⟨⟨name', latency'⟩, schemas', databaseErrors', rows', queryErrors', executed'⟩ := stub'
  have hname : name = name' := StubItem.name.inj (Option.some.inj (h .name))
  have hlatency : latency = latency' := StubItem.latency.inj (Option.some.inj (h .latency))
  have hschemas : schemas = schemas' :=
    KeyedMap.ext_map_find? (fun _ _ _ heq => (StubItem.schema.inj heq).2)
      fun key => h (.schema key)
  have hdatabaseErrors : databaseErrors = databaseErrors' :=
    KeyedMap.ext_map_find? (fun _ _ _ heq => (StubItem.databaseError.inj heq).2)
      fun key => h (.databaseError key)
  have hrows : rows = rows' :=
    KeyedMap.ext_map_find? (fun _ _ _ heq => (StubItem.rows.inj heq).2) fun key => h (.rows key)
  have hqueryErrors : queryErrors = queryErrors' :=
    KeyedMap.ext_map_find? (fun _ _ _ heq => (StubItem.queryError.inj heq).2)
      fun key => h (.queryError key)
  subst hname hlatency hschemas hdatabaseErrors hrows hqueryErrors hexecuted
  rfl

theorem applyAll_concat (items : List StubItem) (item : StubItem)
    (stub : StubHandle × StubState) :
    applyAll (items ++ [item]) stub = item.apply (applyAll items stub) :=
  List.foldl_append

theorem executed_applyAll (items : List StubItem) (stub : StubHandle × StubState) :
    (applyAll items stub).2.executed = stub.2.executed := by
  induction items using List.reverseRecOn with
  | nil => rfl
  | append_singleton items item ih => rw [applyAll_concat, executed_apply, ih]

theorem lastFor?_concat (slot : StubSlot) (items : List StubItem) (item : StubItem) :
    lastFor? slot (items ++ [item]) =
      if item.slot = slot then some item else lastFor? slot items := by
  simp only [lastFor?, getLast?_filter_concat, decide_eq_true_eq]

/-- After any items, each slot has the last one for it, or what it had before. -/
theorem held?_applyAll (items : List StubItem) (stub : StubHandle × StubState) (slot : StubSlot) :
    slot.held? (applyAll items stub) = (lastFor? slot items).or (slot.held? stub) := by
  -- from the end of the list, because there is the item that counts
  induction items using List.reverseRecOn with
  | nil => rfl
  | append_singleton items item ih =>
    rw [applyAll_concat, held?_apply, lastFor?_concat, ih]
    by_cases hslot : item.slot = slot
    · rw [if_pos hslot, if_pos hslot]
      rfl
    · rw [if_neg hslot, if_neg hslot]

/-- Of several items for a slot all but the last are without effect, and the order between slots is
without effect too. -/
theorem applyAll_eq_of_last {items others : List StubItem}
    (h : ∀ slot, lastFor? slot others = lastFor? slot items) (stub : StubHandle × StubState) :
    applyAll others stub = applyAll items stub := by
  apply ext_held?
  · intro slot
    rw [held?_applyAll, held?_applyAll, h slot]
  · rw [executed_applyAll, executed_applyAll]

end StubItem

/-! ## Two ways to make a stub -/

namespace StubBuilder

/-- The builder keeps an item for the end, and the stub has it at once. -/
theorem build_add (b : StubBuilder) (item : StubItem) :
    (b.add item).build = item.apply b.build := by
  cases item with
  | schema database tables =>
    simp only [add, build, StubItem.apply, StubState.addSchema, List.reverse_cons,
      KeyedMap.ofList_concat]
  | databaseError database error =>
    simp only [add, build, StubItem.apply, StubState.addDatabaseError, List.reverse_cons,
      KeyedMap.ofList_concat]
  | rows sql answer =>
    simp only [add, build, StubItem.apply, StubState.addRows, List.reverse_cons,
      KeyedMap.ofList_concat]
  | queryError sql error =>
    simp only [add, build, StubItem.apply, StubState.addQueryError, List.reverse_cons,
      KeyedMap.ofList_concat]
  | name chosen => rfl
  | latency delay => rfl

theorem build_ofItems (items : List StubItem) :
    (ofItems items).build = StubItem.applyAll items ({}, {}) := by
  induction items using List.reverseRecOn with
  | nil => rfl
  | append_singleton items item ih =>
    rw [StubItem.applyAll_concat, ← ih, ← build_add]
    exact congrArg build List.foldl_append

end StubBuilder

namespace StubFamily

/-- A stub that was not cloned. -/
def single (stub : StubHandle × StubState) : StubFamily :=
  ⟨[stub.1], stub.2⟩

theorem perform?_single (stub : StubHandle × StubState) (item : StubItem) :
    (single stub).perform? 0 item.operation = some (.done, single (item.apply stub)) := by
  cases item <;> rfl

theorem performAll?_single (stub : StubHandle × StubState) (items : List StubItem) :
    (single stub).performAll? (items.map fun item => (0, item.operation)) =
      some (items.map fun _ => .done, single (StubItem.applyAll items stub)) := by
  induction items generalizing stub with
  | nil => rfl
  | cons item items ih =>
    simp only [List.map_cons, performAll?, perform?_single, Option.bind_eq_bind, Option.bind_some,
      ih]
    rfl

end StubFamily

/-! ## Requests and replies -/

/-- What can be asked of a clone of a stub. -/
inductive StubRequest where
  | operation (operation : StubOperation)
  /-- The description of a database by a merger that uses the clone. -/
  | merged (merger : CatalogMerger) (driver : String) (database : DatabaseRef)
  /-- The name of the clone and its delay. -/
  | handle

/-- What a clone replies to a request. -/
inductive StubReply where
  | operation (answer : StubAnswer)
  | merged (tables : Except FetchError TableSet)
  | handle (handle : StubHandle)

namespace StubFamily

/-- The reply of a member, if there is that member. -/
def respond? (family : StubFamily) (member : Nat) :
    StubRequest → Option (StubReply × StubFamily)
  | .operation operation => (family.perform? member operation).map (Prod.map .operation id)
  | .merged merger driver database =>
    if member < family.members.length then
      let (tables, changed) := family.run (merger.describe stubIntrospector driver database)
      some (.merged tables, changed)
    else none
  | .handle => family.members[member]?.map fun handle => (.handle handle, family)

/-- The replies to requests that are made one after another, each to its member. -/
def replies? : StubFamily → List (Nat × StubRequest) → Option (List StubReply)
  | _, [] => some []
  | family, (member, request) :: requests => do
    let (reply, family) ← family.respond? member request
    let replies ← family.replies? requests
    return reply :: replies

/-- Every member replies to every request, and no request takes a member away. -/
theorem exists_respond? {family : StubFamily} {member : Nat}
    (h : member < family.members.length) (request : StubRequest) :
    ∃ reply family', family.respond? member request = some (reply, family') ∧
      family.members.length ≤ family'.members.length := by
  cases request with
  | operation operation =>
    let changed := (family.run operation.onState).2
    have hperform : family.perform? member operation =
        some ((family.run operation.onState).1, operation.onMembers member changed) := by
      rw [perform?, if_pos h]
    refine ⟨_, _, congrArg (Option.map _) hperform, ?_⟩
    show family.members.length ≤ (operation.onMembers member changed).members.length
    rw [length_onMembers changed operation h]
    exact Nat.le_add_right _ _
  | merged merger driver database =>
    exact ⟨_, _, if_pos h, Nat.le_refl _⟩
  | handle =>
    refine ⟨.handle family.members[member], family, ?_, Nat.le_refl _⟩
    rw [respond?, List.getElem?_eq_getElem h]
    rfl

theorem exists_replies? {family : StubFamily} {requests : List (Nat × StubRequest)}
    (h : ∀ request ∈ requests, request.1 < family.members.length) :
    ∃ replies, family.replies? requests = some replies := by
  induction requests generalizing family with
  | nil => exact ⟨[], rfl⟩
  | cons request requests ih =>
    obtain ⟨member, request⟩ := request
    obtain ⟨hmember, hrest⟩ := List.forall_mem_cons.1 h
    obtain ⟨reply, family', hreply, hlength⟩ := exists_respond? hmember request
    obtain ⟨replies, hreplies⟩ := ih fun request hmem => (hrest request hmem).trans_le hlength
    refine ⟨reply :: replies, ?_⟩
    simp only [replies?, hreply, Option.bind_eq_bind, Option.bind_some, hreplies]
    rfl

/-- A stub that is built from items and a new stub into which they are put one by one give the same
replies to all requests, through clones too: they start with an empty log and with the last item for
each slot. So does a stub that is built from the items in another order, if each slot has its items
in the order as before. -/
theorem built_as_configured (items : List StubItem) :
    ∃ configured : StubFamily,
      performAll? {} (items.map fun item => (0, item.operation)) =
        some (items.map fun _ => .done, configured) ∧
      (∀ requests : List (Nat × StubRequest),
        (single (StubBuilder.ofItems items).build).replies? requests =
          configured.replies? requests) ∧
      (∀ requests : List (Nat × StubRequest), (∀ request ∈ requests, request.1 = 0) →
        ∃ replies,
          (single (StubBuilder.ofItems items).build).replies? requests = some replies) ∧
      (StubBuilder.ofItems items).build.2.executed = [] ∧
      (∀ slot : StubSlot, slot.held? (StubBuilder.ofItems items).build =
        (lastFor? slot items).or (slot.held? ({}, {}))) ∧
      ∀ others : List StubItem,
        (∀ slot, others.filter (fun item => item.slot = slot) =
          items.filter fun item => item.slot = slot) →
        ∀ requests : List (Nat × StubRequest),
          (single (StubBuilder.ofItems others).build).replies? requests =
            (single (StubBuilder.ofItems items).build).replies? requests := by
  refine ⟨_, performAll?_single ({}, {}) items, ?_, ?_, ?_, ?_, ?_⟩
  · intro requests
    rw [StubBuilder.build_ofItems]
  · intro requests hrequests
    apply exists_replies?
    intro request hmem
    rw [hrequests request hmem]
    exact Nat.zero_lt_one
  · rw [StubBuilder.build_ofItems, StubItem.executed_applyAll]
  · intro slot
    rw [StubBuilder.build_ofItems, StubItem.held?_applyAll]
  · intro others hothers requests
    -- of the order in each slot only the last item matters
    have hlast (slot : StubSlot) : lastFor? slot others = lastFor? slot items :=
      congrArg List.getLast? (hothers slot)
    rw [StubBuilder.build_ofItems, StubBuilder.build_ofItems, StubItem.applyAll_eq_of_last hlast]

/-- Items of two databases and of two kinds change places; the tables that were put in first are
never seen. -/
theorem built_as_configured_in_two_orders :
    let early : StubItem := .schema "d" .empty
    let aside : StubItem := .schema "e" .empty
    let named : StubItem := .name "Stub"
    let late : StubItem := .schema "d" (.ofList [⟨"s", "t"⟩])
    let found : StubItem :=
      .rows "q" [⟨.ofList [("schema", .string "s"), ("name", .string "v")]⟩]
    let items : List StubItem := [early, aside, named, late, found]
    let others : List StubItem := [aside, early, late, named, found]
    let requests : List (Nat × StubRequest) :=
      [(0, .operation .clone), (1, .merged ⟨"view", "q", true⟩ "vertica" ⟨"d", .empty⟩),
        (0, .operation .executedQueries), (1, .handle)]
    let replies : List StubReply :=
      [.operation .done, .merged (.ok (.ofList [⟨"s", "t"⟩, ⟨"s", "v"⟩])),
        .operation (.queries ["q"]), .handle ⟨"Stub", 0⟩]
    (∀ slot, others.filter (fun item => item.slot = slot) =
      items.filter fun item => item.slot = slot) ∧
    (single (StubBuilder.ofItems others).build).replies? requests = some replies ∧
    ∃ configured : StubFamily,
      performAll? {} (items.map fun item => (0, item.operation)) =
        some (items.map fun _ => .done, configured) ∧
      configured.replies? requests = some replies ∧
      ∃ replies', configured.replies? (requests.filter fun request => request.1 = 0) =
        some replies' := by
  intro early aside named late found items others requests replies
  have hkeys : early.slot ≠ aside.slot := by decide
  have hkinds : named.slot ≠ late.slot := by decide
  have hothers (slot : StubSlot) : others.filter (fun item => item.slot = slot) =
      items.filter fun item => item.slot = slot :=
    (filter_slot_swap hkeys [] [late, named, found] slot).trans
      (filter_slot_swap hkinds [early, aside] [found] slot)
  have hreplies :
      (single (StubBuilder.ofItems others).build).replies? requests = some replies := rfl
  obtain ⟨configured, hconfigured, hsame, htotal, -, -, hreordered⟩ := built_as_configured items
  refine ⟨hothers, hreplies, configured, hconfigured, ?_, ?_⟩
  · rw [← hsame, ← hreordered others hothers, hreplies]
  · rw [← hsame]
    apply htotal
    intro request hmem
    exact of_decide_eq_true (List.mem_filter.1 hmem).2

end StubFamily
end SqlDialect
