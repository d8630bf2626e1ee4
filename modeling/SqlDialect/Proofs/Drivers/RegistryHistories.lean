import Mathlib.Data.List.Dedup
import SqlDialect.Drivers.Registry
import SqlDialect.Proofs.Histories
import SqlDialect.Proofs.Text.CodePoints

/-!
# Registries and their histories

What a registry holds depends on the registrations that took effect, and on nothing else: look-ups
and registrations whose probe failed leave no trace. Main statement: so it is after any operations,
with the surroundings changing in between as they like.
-/

namespace SqlDialect

/-- What a probe can see at the moment when it looks. -/
structure Surroundings where
  /-- The home directory of the native client, if one is given. -/
  home : Option String
  /-- Whether there is a file at a path. -/
  isFile : String → Bool

/-- Whether the library of the native client lies in one of the directories where it is expected. -/
def Surroundings.HasClient (here : Surroundings) : Prop :=
  ∃ directory ∈ (LibraryProbe.default here.home).paths,
    here.isFile (Path.join directory clientLibrary) = true

instance (here : Surroundings) : Decidable here.HasClient :=
  inferInstanceAs (Decidable (∃ directory ∈ (LibraryProbe.default here.home).paths,
    here.isFile (Path.join directory clientLibrary) = true))

/-- What can be done to a registry. -/
inductive RegistryOperation where
  | register (driver : Driver)
  | registerIf (driver : Driver) (probe : Surroundings → Bool)
  | registerBuiltin
  | get (name : String)
  | has (name : String)
  | names

/-- What comes back from an operation. -/
inductive RegistryAnswer where
  | done
  | registered (tookEffect : Bool)
  | driver (found : Option Driver)
  | present (found : Bool)
  | names (all : List String)

/-- An operation with the surroundings in which it takes place. -/
abbrev RegistryStep := Surroundings × RegistryOperation

namespace Registry

/-- An operation on a registry. -/
def perform (registry : Registry) : RegistryStep → RegistryAnswer × Registry
  | (_, .register driver) => (.done, registry.register driver)
  | (here, .registerIf driver probe) =>
    (registry.registerIf driver (probe here)).map .registered id
  | (here, .registerBuiltin) =>
    (registry.registerBuiltin here.home here.isFile).map .registered id
  | (_, .get name) => (.driver (registry.get? name), registry)
  | (_, .has name) => (.present (registry.has name), registry)
  | (_, .names) => (.names registry.names, registry)

/-- Operations one after another. -/
def performAll : Registry → List RegistryStep → List RegistryAnswer × Registry
  | registry, [] => ([], registry)
  | registry, step :: steps =>
    let (answer, registry) := registry.perform step
    let (answers, registry) := registry.performAll steps
    (answer :: answers, registry)

end Registry

/-! ## What a history says -/

/-- The driver that a step registers; a registration whose probe fails has no effect. -/
def registered? : RegistryStep → Option Driver
  | (_, .register driver) => some driver
  | (here, .registerIf driver probe) => if probe here then some driver else none
  | (here, .registerBuiltin) => if here.HasClient then some .vertica else none
  | _ => none

/-- The drivers of the registrations that took effect, the oldest first. -/
def registeredIn (history : List RegistryStep) : List Driver :=
  history.filterMap registered?

/-- The driver that was registered last under a name. -/
def lastRegistered? (name : String) (history : List RegistryStep) : Option Driver :=
  ((registeredIn history).filter fun driver => driver.name = name).getLast?

/-- The names of the drivers, each once and in ascending order. -/
def registeredNames (history : List RegistryStep) : List String :=
  ((registeredIn history).map Driver.name).dedup.mergeSort fun a b => decide (a ≤ b)

/-- The answer to a step that comes after a history. -/
def registryAnswer (history : List RegistryStep) : RegistryStep → RegistryAnswer
  | (_, .register _) => .done
  | (here, .registerIf _ probe) => .registered (probe here)
  | (here, .registerBuiltin) => .registered (decide here.HasClient)
  | (_, .get name) => .driver (lastRegistered? name history)
  | (_, .has name) => .present (lastRegistered? name history).isSome
  | (_, .names) => .names (registeredNames history)

/-! ## Registries in general -/

theorem LibraryProbe.isAvailable_iff {probe : LibraryProbe} {isFile : String → Bool} :
    probe.isAvailable isFile = true ↔
      ∃ directory ∈ probe.paths, isFile (Path.join directory probe.library) = true :=
  List.any_eq_true

/-- A probe does not mind in which order it looks into its directories. -/
theorem LibraryProbe.isAvailable_perm {library : String} {paths paths' : List String}
    (h : paths.Perm paths') (isFile : String → Bool) :
    isAvailable ⟨library, paths⟩ isFile = isAvailable ⟨library, paths'⟩ isFile := by
  rw [Bool.eq_iff_iff, isAvailable_iff, isAvailable_iff]
  constructor
  · rintro ⟨directory, hmem, hfile⟩
    exact ⟨directory, h.mem_iff.1 hmem, hfile⟩
  · rintro ⟨directory, hmem, hfile⟩
    exact ⟨directory, h.mem_iff.2 hmem, hfile⟩

namespace Registry

variable (registry : Registry)

theorem names_ascending : registry.names.Pairwise fun a b => a < b :=
  List.pairwise_map.2 registry.drivers.ascending

theorem mem_names_iff {name : String} :
    name ∈ registry.names ↔ (registry.get? name).isSome = true := by
  rw [Option.isSome_iff_ne_none, Ne, get?, KeyedMap.find?_eq_none_iff, not_not]
  rfl

theorem names_subset_register (driver : Driver) :
    registry.names ⊆ (registry.register driver).names := by
  intro name hname
  rw [mem_names_iff] at hname ⊢
  rw [get?_register]
  split
  · rfl
  · exact hname

theorem perform_registerIf (here : Surroundings) (driver : Driver) (probe : Surroundings → Bool) :
    registry.perform (here, .registerIf driver probe) =
      if probe here = true then (.registered true, registry.register driver)
      else (.registered false, registry) := by
  rw [perform, registerIf]
  split <;> rfl

theorem perform_registerBuiltin (here : Surroundings) :
    registry.perform (here, .registerBuiltin) =
      if here.HasClient then (.registered true, registry.register .vertica)
      else (.registered false, registry) := by
  have hprobe : (LibraryProbe.default here.home).isAvailable here.isFile = true ↔
      here.HasClient :=
    LibraryProbe.isAvailable_iff
  rw [perform, registerBuiltin, registerIf]
  by_cases hclient : here.HasClient
  · rw [if_pos hclient, if_pos (hprobe.2 hclient)]
    rfl
  · rw [if_neg hclient, if_neg (mt hprobe.1 hclient)]
    rfl

/-- A step registers its driver, or leaves the registry as it is. -/
theorem perform_snd (step : RegistryStep) :
    (registry.perform step).2 = (registered? step).elim registry registry.register := by
  obtain ⟨here, operation⟩ := step
  cases operation with
  | registerIf driver probe =>
    rw [perform_registerIf, registered?]
    split <;> rfl
  | registerBuiltin =>
    rw [perform_registerBuiltin, registered?]
    split <;> rfl
  | _ => rfl

/-! ## One step -/

/-- The registry with some drivers registered one after another. -/
def ofDrivers (drivers : List Driver) : Registry :=
  drivers.foldl register empty

theorem ofDrivers_concat (drivers : List Driver) (driver : Driver) :
    ofDrivers (drivers ++ [driver]) = (ofDrivers drivers).register driver :=
  List.foldl_append

theorem drivers_ofDrivers (drivers : List Driver) :
    (ofDrivers drivers).drivers = .ofList (drivers.map fun driver => (driver.name, driver)) := by
  induction drivers using List.reverseRecOn with
  | nil => rfl
  | append_singleton drivers driver ih =>
    rw [List.map_append, List.map_singleton, KeyedMap.ofList_concat, ← ih, ofDrivers_concat]
    rfl

theorem get?_ofDrivers (drivers : List Driver) (name : String) :
    (ofDrivers drivers).get? name =
      (drivers.filter fun driver => driver.name = name).getLast? := by
  rw [get?, drivers_ofDrivers, KeyedMap.find?_ofList_eq_lastUnder?, lastUnder?, List.filter_map,
    List.getLast?_map, Option.map_map]
  exact Option.map_id'

variable (history : List RegistryStep)

theorem mem_names_ofDrivers {drivers : List Driver} {name : String} :
    name ∈ (ofDrivers drivers).names ↔ name ∈ drivers.map Driver.name := by
  rw [mem_names_iff, get?_ofDrivers, List.getLast?_isSome, Ne, List.filter_eq_nil_iff]
  simp [List.mem_map]

theorem names_ofDrivers :
    (ofDrivers (registeredIn history)).names = registeredNames history := by
  have hnames : (ofDrivers (registeredIn history)).names.Pairwise fun a b => a ≤ b := by
    refine (names_ascending _).imp ?_
    intro a b hab
    exact String.not_lt.1 (String.lt_asymm hab)
  have hsorted : (registeredNames history).Pairwise fun a b => a ≤ b := by
    refine (List.pairwise_mergeSort ?_ ?_ _).imp of_decide_eq_true
    · intro a b c hab hbc
      exact decide_eq_true (String.le_trans (of_decide_eq_true hab) (of_decide_eq_true hbc))
    · intro a b
      rw [Bool.or_eq_true, decide_eq_true_iff, decide_eq_true_iff]
      exact String.le_total a b
  have hdedup : (ofDrivers (registeredIn history)).names.Perm
      ((registeredIn history).map Driver.name).dedup := by
    refine (List.perm_ext_iff_of_nodup (KeyedMap.nodup_keys _) (List.nodup_dedup _)).2 ?_
    intro name
    rw [List.mem_dedup]
    exact mem_names_ofDrivers
  refine List.Perm.eq_of_pairwise ?_ hnames hsorted (hdedup.trans (List.mergeSort_perm _ _).symm)
  intro a b _ _ hab hba
  exact String.le_antisymm hab hba

/-- A step answers from the history, and then belongs to it. -/
theorem perform_ofDrivers (step : RegistryStep) :
    (ofDrivers (registeredIn history)).perform step =
      (registryAnswer history step, ofDrivers (registeredIn (history ++ [step]))) := by
  refine Prod.ext ?_ ?_
  · obtain ⟨here, operation⟩ := step
    cases operation with
    | register driver => rfl
    | registerIf driver probe =>
      rw [perform_registerIf, registryAnswer]
      cases probe here <;> rfl
    | registerBuiltin =>
      rw [perform_registerBuiltin, registryAnswer]
      by_cases hclient : here.HasClient
      · rw [if_pos hclient, decide_eq_true hclient]
      · rw [if_neg hclient, decide_eq_false hclient]
    | get name => exact congrArg RegistryAnswer.driver (get?_ofDrivers _ name)
    | has name => exact congrArg (RegistryAnswer.present ·.isSome) (get?_ofDrivers _ name)
    | names => exact congrArg RegistryAnswer.names (names_ofDrivers history)
  · show _ = ofDrivers ((history ++ [step]).filterMap registered?)
    rw [perform_snd, filterMap_concat]
    cases registered? step with
    | none => rfl
    | some driver => exact (ofDrivers_concat _ driver).symm

/-! ## Many steps -/

theorem performAll_ofDrivers (steps : List RegistryStep) :
    (ofDrivers (registeredIn history)).performAll steps =
      (answersAfter registryAnswer history steps,
        ofDrivers (registeredIn (history ++ steps))) := by
  induction steps generalizing history with
  | nil => rw [List.append_nil]; rfl
  | cons step steps ih =>
    rw [performAll, perform_ofDrivers]
    simp only [ih, answersAfter, List.append_assoc, List.singleton_append]

/-- After any operations, the names are ascending, each name that is listed has a driver, the driver
that was registered last under it, and no operation takes it away. Look-ups and registrations whose
probe fails change nothing. The driver for Vertica is registered if the library of the native client
is there at that moment, in whichever order the directories are looked into. -/
theorem answers_from_registrations {steps : List RegistryStep} {answers : List RegistryAnswer}
    {registry : Registry} (h : empty.performAll steps = (answers, registry)) :
    answers = answersAfter registryAnswer [] steps ∧
      (registry.names.Pairwise fun a b => codePoints a < codePoints b) ∧
      (∀ name : String,
        (name ∈ registry.names ↔ registry.has name = true) ∧
        (registry.has name = true ↔ ∃ driver, registry.get? name = some driver) ∧
        registry.get? name = lastRegistered? name steps ∧
        ∀ driver, registry.get? name = some driver → driver.name = name) ∧
      (∀ step : RegistryStep,
        registry.names ⊆ (registry.perform step).2.names ∧
        (registered? step = none → (registry.perform step).2 = registry)) ∧
      (∀ (here : Surroundings) (driver : Driver) (probe : Surroundings → Bool),
        probe here = false →
          registry.perform (here, .registerIf driver probe) = (.registered false, registry)) ∧
      ∀ here : Surroundings,
        (registry.perform (here, .registerBuiltin) =
          if here.HasClient then (.registered true, registry.register .vertica)
          else (.registered false, registry)) ∧
        ∀ paths : List String, paths.Perm (LibraryProbe.default here.home).paths →
          registry.perform (here, .registerIf .vertica fun here =>
              LibraryProbe.isAvailable ⟨clientLibrary, paths⟩ here.isFile) =
            registry.perform (here, .registerBuiltin) := by
  have hrun : (answers, registry) =
      (answersAfter registryAnswer [] steps, ofDrivers (registeredIn steps)) :=
    h.symm.trans (performAll_ofDrivers [] steps)
  obtain ⟨hanswers, hregistry⟩ := Prod.mk.inj hrun
  have hget (name : String) : registry.get? name = lastRegistered? name steps := by
    rw [hregistry]
    exact get?_ofDrivers _ name
  refine ⟨hanswers, registry.names_ascending.imp codePoints_lt, ?_, ?_, ?_, ?_⟩
  · intro name
    refine ⟨registry.mem_names_iff, Option.isSome_iff_exists, hget name, ?_⟩
    intro driver hdriver
    have hmem := List.mem_of_getLast? ((hget name).symm.trans hdriver)
    exact of_decide_eq_true (List.mem_filter.1 hmem).2
  · intro step
    rw [perform_snd]
    cases registered? step with
    | none => exact ⟨fun _ hname => hname, fun _ => rfl⟩
    | some driver => exact ⟨registry.names_subset_register driver, nofun⟩
  · intro here driver probe hprobe
    rw [perform_registerIf, hprobe]
    rfl
  · intro here
    refine ⟨registry.perform_registerBuiltin here, ?_⟩
    intro paths hpaths
    rw [perform, LibraryProbe.isAvailable_perm hpaths]
    rfl

/-- A driver gives way to a later one of its name, and the driver for Vertica waits for a home
directory with the library in it. -/
theorem answers_from_registrations_of_two_names :
    let steps : List RegistryStep :=
      [(⟨none, fun _ => false⟩, .registerBuiltin),
        (⟨none, fun _ => false⟩, .registerIf (.named "b" "B") fun _ => true),
        (⟨some "/h", (· = "/h/lib64/libverticaodbc.so")⟩, .registerBuiltin),
        (⟨none, fun _ => false⟩, .register (.named "b" "C")),
        (⟨none, fun _ => false⟩, .names)]
    let answers : List RegistryAnswer :=
      [.registered false, .registered true, .registered true, .done, .names ["b", "vertica"]]
    ∃ registry : Registry,
      empty.performAll steps = (answers, registry) ∧
      registry.get? "b" = some (.named "b" "C") ∧
      registry.get? "vertica" = some .vertica ∧
      registry.perform (⟨none, fun _ => false⟩, .registerBuiltin) =
        (.registered false, registry) := by
  intro steps answers
  obtain ⟨registry, hrun⟩ : ∃ registry : Registry, empty.performAll steps = (answers, registry) :=
    ⟨_, rfl⟩
  obtain ⟨-, -, hnames, -, -, hbuiltin⟩ := answers_from_registrations hrun
  obtain ⟨-, -, hb, -⟩ := hnames "b"
  obtain ⟨-, -, hv, -⟩ := hnames "vertica"
  have hnone := (hbuiltin ⟨none, fun _ => false⟩).1
  exact ⟨registry, hrun, hb, hv, hnone⟩

end Registry
end SqlDialect
