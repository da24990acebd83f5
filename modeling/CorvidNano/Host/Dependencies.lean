import CorvidNano.Host.Invoke
import CorvidNano.Host.Lifecycle

/-!
# Dependencies of registered plugins

The registry of `registry.rs` with all its ids and manifests. Every operation takes the steps of
`Lifecycle` on the entry of its own id, and all of them run interleaved. `check_dependencies` is
part of the registry, but neither start-up discovery nor any request calls it.

`dependencies_met` is the main result: the dependencies of every registered plugin stay
registered and active in runs in which a plugin is only registered when `check_dependencies`
accepts it, and in which no slot is drained and no id removed while another plugin depends on it.
`dependencies_met_step_iff` says that a step which violates this condition breaks the invariant.
-/

namespace CorvidNano.Host.Dependencies

open Loader Runs Sdk

variable {platform : Platform}

/-- An entry of the map: the slot, as its index among all slots ever created, and the load that
it was made of. A slot keeps its manifest for good. -/
structure Entry (platform : Platform) where
  slot : Nat
  call : LoadCall platform

/-- The manifest of a registered plugin. -/
def Entry.manifest (entry : Entry platform) : PluginManifest := entry.call.loaded.manifest

/-- A request to the registry. Start-up discovery registers what it finds as `plugin.load` does.
A load that fails does not reach the registry. -/
inductive Request (platform : Platform) where
  | register (call : LoadCall platform)
  | unload (id : String)
  | reload (id : String) (newPlugin : LoadCall platform)

/-- The id that a request is about. -/
def Request.id : Request platform → String
  | .register call => call.loaded.manifest.id
  | .unload id => id
  | .reload id _ => id

/-- The plugin that a request registers. -/
def Request.registered : Request platform → Option (LoadCall platform)
  | .register call => some call
  | .unload _ | .reload _ _ => none

/-- The operation of a request before its first step. -/
def Request.operation : Request platform → Lifecycle.Operation
  | .register _ => .register
  | .unload _ => .unload
  | .reload _ _ => .reload

/-- A request and where its operation stands. -/
structure Task (platform : Platform) where
  request : Request platform
  operation : Lifecycle.Operation

/-- The slots created so far, the map, and the requests that run on them. -/
structure Registry (platform : Platform) where
  slots : List Lifecycle.Cell
  entries : List (Entry platform)
  tasks : List (Task platform)

/-- An empty map and the requests that will run on it. -/
def Registry.start (requests : List (Request platform)) : Registry platform where
  slots := []
  entries := []
  tasks := requests.map fun request => { request, operation := request.operation }

/-- The entry of an id. -/
def Registry.get (registry : Registry platform) (id : String) : Option (Entry platform) :=
  registry.entries.find? fun entry => entry.manifest.id == id

/-- The slot of an id. -/
def Registry.slotOf (registry : Registry platform) (id : String) : Option Nat :=
  (registry.get id).map Entry.slot

/-- `PluginSlot::is_active`. -/
def isActive (slots : List Lifecycle.Cell) (slot : Nat) : Bool :=
  slots[slot]?.map Lifecycle.Cell.state == some .active

/-- The map after an operation has left `slot` as the entry of its request's id. -/
def setEntry (entries : List (Entry platform)) (request : Request platform) :
    Option Nat → List (Entry platform)
  | none => entries.filter fun entry => entry.manifest.id != request.id
  | some slot =>
      match request with
      | .register call =>
          if entries.any fun entry => entry.manifest.id == call.loaded.manifest.id then entries
          else entries ++ [{ slot, call }]
      | .unload _ | .reload _ _ => entries

/-- The next step of task `i`. -/
def step (registry : Registry platform) (i : Nat) : Option (Registry platform) := do
  let task ← registry.tasks[i]?
  let (slots, entry, operation) ← Lifecycle.advance registry.slots
    (registry.slotOf task.request.id) task.operation
  pure {
    slots
    entries := setEntry registry.entries task.request entry
    tasks := registry.tasks.set i { task with operation } }

/-- `PluginRegistry::check_dependencies`. -/
def checkDependencies (registry : Registry platform) (manifest : PluginManifest) :
    Except String Unit :=
  let missing := manifest.dependencies.filter fun depId => (registry.slotOf depId).isNone
  let inactive := manifest.dependencies.filter fun depId =>
    (registry.slotOf depId).any fun slot => !isActive registry.slots slot
  if missing.isEmpty && inactive.isEmpty then .ok ()
  else
    let parts :=
      (if missing.isEmpty then [] else ["missing: [" ++ ", ".intercalate missing ++ "]"]) ++
        (if inactive.isEmpty then [] else ["inactive: [" ++ ", ".intercalate inactive ++ "]"])
    .error ("plugin '" ++ manifest.id ++ "' has unsatisfied dependencies: " ++
      "; ".intercalate parts)

/-- The id is registered and active. -/
def Available (registry : Registry platform) (id : String) : Prop :=
  ∃ slot, registry.slotOf id = some slot ∧ isActive registry.slots slot = true

/-- Each id that the manifest of a registered plugin lists as a dependency is registered and
active. -/
def DependenciesMet (registry : Registry platform) : Prop :=
  ∀ entry ∈ registry.entries, ∀ depId ∈ entry.manifest.dependencies, Available registry depId

/-- A registered plugin lists the id as a dependency. -/
def DependedOn (registry : Registry platform) (id : String) : Prop :=
  ∃ entry ∈ registry.entries, id ∈ entry.manifest.dependencies

/-- A registered plugin lists as a dependency an id whose slot this is. -/
def Needed (registry : Registry platform) (slot : Nat) : Prop :=
  ∃ entry ∈ registry.entries, ∃ depId ∈ entry.manifest.dependencies,
    registry.slotOf depId = some slot

/-- The next step of the task breaks no dependency: a plugin is only registered when
`check_dependencies` accepts its manifest, and a slot is only drained or unloaded, and an id only
removed, when no registered plugin depends on it. -/
def KeepsDependencies (registry : Registry platform) (task : Task platform) : Prop :=
  match task.operation with
  | .register => ∀ call ∈ task.request.registered,
      registry.slotOf call.loaded.manifest.id = none →
        checkDependencies registry call.loaded.manifest = .ok ()
  | .unloadFound slot | .unloadDrained slot | .reloadFound slot => ¬ Needed registry slot
  | .unloadMarked _ => ¬ DependedOn registry task.request.id
  | _ => True

/-- `Needed` is decided by looking through the map. -/
instance (registry : Registry platform) (slot : Nat) : Decidable (Needed registry slot) :=
  inferInstanceAs (Decidable (∃ entry ∈ registry.entries,
    ∃ depId ∈ entry.manifest.dependencies, registry.slotOf depId = some slot))

/-- `DependedOn` is decided by looking through the map. -/
instance (registry : Registry platform) (id : String) : Decidable (DependedOn registry id) :=
  inferInstanceAs (Decidable (∃ entry ∈ registry.entries, id ∈ entry.manifest.dependencies))

/-- `KeepsDependencies` is decided at each operation. -/
instance (registry : Registry platform) (task : Task platform) :
    Decidable (KeepsDependencies registry task) :=
  match task with
  | ⟨request, .register⟩ =>
      inferInstanceAs (Decidable (∀ call ∈ request.registered,
        registry.slotOf call.loaded.manifest.id = none →
          checkDependencies registry call.loaded.manifest = .ok ()))
  | ⟨_, .unloadFound slot⟩ | ⟨_, .unloadDrained slot⟩ | ⟨_, .reloadFound slot⟩ =>
      inferInstanceAs (Decidable (¬ Needed registry slot))
  | ⟨request, .unloadMarked _⟩ => inferInstanceAs (Decidable (¬ DependedOn registry request.id))
  | ⟨_, .unload⟩ | ⟨_, .unloadDraining _⟩ | ⟨_, .reload⟩ | ⟨_, .reloadDraining _⟩
  | ⟨_, .reloadDrained _⟩ | ⟨_, .reloadSwapped _⟩ | ⟨_, .finished⟩ =>
      inferInstanceAs (Decidable True)

/-- The next step of task `i` breaks no dependency. -/
def StepKeeps (registry : Registry platform) (i : Nat) : Prop :=
  ∀ task ∈ registry.tasks[i]?, KeepsDependencies registry task

/-- `StepKeeps` is decided on the task. -/
instance (registry : Registry platform) (i : Nat) : Decidable (StepKeeps registry i) :=
  inferInstanceAs (Decidable (∀ task ∈ registry.tasks[i]?, KeepsDependencies registry task))

/-! ## Looking up ids -/

/-- `check_dependencies` accepts a manifest if and only if its dependencies are registered and
active. -/
theorem check_dependencies_eq_ok {registry : Registry platform} {manifest : PluginManifest} :
    checkDependencies registry manifest = .ok () ↔
      ∀ depId ∈ manifest.dependencies, Available registry depId := by
  have havailable : ∀ depId, Available registry depId ↔
      (registry.slotOf depId).isNone = false ∧
        (registry.slotOf depId).any (fun slot => !isActive registry.slots slot) = false := by
    intro depId
    unfold Available
    cases registry.slotOf depId with
    | none => simp
    | some slot => simp
  unfold checkDependencies
  simp only [havailable]
  constructor
  · intro hok depId hmem
    split at hok
    · rename_i hempty
      simp only [Bool.and_eq_true, List.isEmpty_iff, List.filter_eq_nil_iff] at hempty
      exact ⟨Bool.eq_false_iff.mpr (hempty.1 depId hmem),
        Bool.eq_false_iff.mpr (hempty.2 depId hmem)⟩
    · cases hok
  · intro hall
    rw [if_pos]
    simp only [Bool.and_eq_true, List.isEmpty_iff, List.filter_eq_nil_iff]
    exact ⟨fun depId hmem => by simp [(hall depId hmem).1],
      fun depId hmem => by simp [(hall depId hmem).2]⟩

/-- The map with one more entry has that entry at its id, if the id was free, and the old
entries at all others. -/
theorem slot_of_register {registry next : Registry platform} {slot : Nat}
    {call : LoadCall platform} (hentries : next.entries = registry.entries ++ [⟨slot, call⟩])
    (id : String) :
    next.slotOf id =
      (registry.slotOf id).or (if call.loaded.manifest.id = id then some slot else none) := by
  unfold Registry.slotOf Registry.get
  rw [hentries, List.find?_append]
  cases registry.entries.find? fun entry => entry.manifest.id == id with
  | none => by_cases hid : call.loaded.manifest.id = id <;> simp [Entry.manifest, hid]
  | some entry => simp

/-- Removing an id leaves the slots of all other ids. -/
theorem slot_of_remove {registry next : Registry platform} {removed : String}
    (hentries : next.entries =
      registry.entries.filter fun entry => entry.manifest.id != removed) (id : String) :
    next.slotOf id = if id = removed then none else registry.slotOf id := by
  unfold Registry.slotOf Registry.get
  rw [hentries, List.find?_filter]
  split
  · rename_i hid
    subst hid
    simp
  · rename_i hid
    congr 2
    funext entry
    by_cases hentry : entry.manifest.id = id
    · simp [hentry, hid]
    · simp [hentry]

/-- An entry is found by its id. -/
theorem slot_of_isSome_iff {registry : Registry platform} {id : String} :
    (registry.slotOf id).isSome = true ↔ ∃ entry ∈ registry.entries, entry.manifest.id = id := by
  simp [Registry.slotOf, Registry.get]

/-- A new slot is active, and the others stay as they are. -/
theorem is_active_append {slots : List Lifecycle.Cell} {slot : Nat} :
    isActive (slots ++ [{ state := .active, drained := false }]) slot =
      (isActive slots slot || slot == slots.length) := by
  unfold isActive
  rcases Nat.lt_trichotomy slot slots.length with hlt | heq | hgt
  · rw [List.getElem?_append_left hlt]
    simp [hlt.ne]
  · subst heq
    simp
  · rw [List.getElem?_eq_none (by simp; omega), List.getElem?_eq_none (by omega)]
    simp [hgt.ne']

/-- A store of `ACTIVE` deactivates no slot. -/
theorem is_active_store_active {slots : List Lifecycle.Cell} {slot other : Nat}
    (h : isActive slots other = true) :
    isActive (Lifecycle.storeState slots slot .active) other = true := by
  unfold isActive at h ⊢
  by_cases hother : slot = other
  · subst hother
    cases hcell : slots[slot]? with
    | none => simp [hcell] at h
    | some cell => simp [Lifecycle.storeState, hcell]
  · simpa [Lifecycle.storeState, hother] using h

/-- A store of another state deactivates that slot and no other. -/
theorem is_active_store {slots : List Lifecycle.Cell} {slot other : Nat}
    {change : Lifecycle.Cell → Lifecycle.Cell} (hchange : ∀ cell, (change cell).state ≠ .active) :
    isActive (slots.modify slot change) other = (isActive slots other && slot != other) := by
  unfold isActive
  by_cases hother : slot = other
  · subst hother
    cases hcell : slots[slot]? with
    | none => simp [hcell]
    | some cell => simp [hcell, hchange]
  · simp [hother]

/-! ## What a step can do -/

/-- A step is the step of `Lifecycle` at the id of the task's request. -/
theorem step_eq_some {registry next : Registry platform} {i : Nat} {task : Task platform}
    (htask : registry.tasks[i]? = some task) :
    step registry i = some next ↔ ∃ slots entry operation,
      Lifecycle.advance registry.slots (registry.slotOf task.request.id) task.operation =
        some (slots, entry, operation) ∧
      next = {
        slots
        entries := setEntry registry.entries task.request entry
        tasks := registry.tasks.set i { task with operation } } := by
  simp [step, htask, Option.bind_eq_some_iff, eq_comm (a := next)]

/-- Writing back the entry that an id has changes nothing. -/
theorem set_entry_self (registry : Registry platform) (request : Request platform) :
    setEntry registry.entries request (registry.slotOf request.id) = registry.entries := by
  cases hslot : registry.slotOf request.id with
  | none =>
      refine List.filter_eq_self.mpr fun entry hmem => ?_
      have hfree := mt slot_of_isSome_iff.mpr (by simpa using hslot)
      simpa using fun hid => hfree ⟨entry, hmem, hid⟩
  | some slot =>
      cases request with
      | register call =>
          have htaken := slot_of_isSome_iff.mp (Option.isSome_iff_exists.mpr ⟨slot, hslot⟩)
          exact if_pos (by simpa [Request.id] using htaken)
      | unload id => rfl
      | reload id newPlugin => rfl

/-- A step registers a plugin, drains or unloads a slot, removes an id, or does nothing but
activate slots. -/
theorem step_cases {registry next : Registry platform} {i : Nat} {task : Task platform}
    (htask : registry.tasks[i]? = some task) (hstep : step registry i = some next) :
    (∃ call, task.operation = .register ∧ task.request = .register call ∧
      registry.slotOf call.loaded.manifest.id = none ∧
      next.slots = registry.slots ++ [{ state := .active, drained := false }] ∧
      next.entries = registry.entries ++ [{ slot := registry.slots.length, call }]) ∨
    (∃ slot change, (task.operation = .unloadFound slot ∨ task.operation = .unloadDrained slot ∨
        task.operation = .reloadFound slot) ∧
      (∀ cell : Lifecycle.Cell, (change cell).state ≠ .active) ∧
      next.slots = registry.slots.modify slot change ∧ next.entries = registry.entries) ∨
    (∃ slot, task.operation = .unloadMarked slot ∧ next.slots = registry.slots ∧
      next.entries = registry.entries.filter fun entry =>
        entry.manifest.id != task.request.id) ∨
    (KeepsDependencies registry task ∧ next.entries = registry.entries ∧
      registry.slots.length ≤ next.slots.length ∧
      ∀ slot, isActive registry.slots slot = true → isActive next.slots slot = true) := by
  obtain ⟨slots, entry, operation, hadvance, rfl⟩ := (step_eq_some htask).mp hstep
  obtain ⟨request, old⟩ := task
  have hself := set_entry_self registry request
  cases old with
  | register =>
      cases hslot : registry.slotOf request.id with
      | some slot =>
          simp only [Lifecycle.advance, hslot, Option.some.injEq, Prod.mk.injEq] at hadvance
          obtain ⟨rfl, rfl, rfl⟩ := hadvance
          rw [hslot] at hself
          refine .inr (.inr (.inr ⟨?_, hself, le_rfl, fun _ h => h⟩))
          intro call hcall hfree
          cases request with
          | register registered =>
              cases hcall
              cases hfree.symm.trans hslot
          | unload id | reload id newPlugin => cases hcall
      | none =>
          simp only [Lifecycle.advance, hslot, Option.some.injEq, Prod.mk.injEq] at hadvance
          obtain ⟨rfl, rfl, rfl⟩ := hadvance
          cases request with
          | register call =>
              refine .inl ⟨call, rfl, rfl, hslot, rfl, if_neg ?_⟩
              have hfree := mt slot_of_isSome_iff.mpr (by simpa using hslot)
              simpa [Request.id] using hfree
          | unload id | reload id newPlugin =>
              refine .inr (.inr (.inr ⟨?_, rfl, by simp, ?_⟩))
              · intro call hcall
                cases hcall
              · intro slot hactive
                rw [is_active_append, hactive]
                rfl
  | unload =>
      cases hadvance
      exact .inr (.inr (.inr ⟨trivial, hself, le_rfl, fun _ h => h⟩))
  | unloadFound slot =>
      cases hadvance
      refine .inr (.inl ⟨slot, _, .inl rfl, ?_, rfl, hself⟩)
      intro cell hactive
      cases hactive
  | unloadDraining slot =>
      cases hadvance
      exact .inr (.inr (.inr ⟨trivial, hself, le_rfl, fun _ h => h⟩))
  | unloadDrained slot =>
      cases hadvance
      refine .inr (.inl ⟨slot, _, .inr (.inl rfl), ?_, rfl, hself⟩)
      intro cell hactive
      cases hactive
  | unloadMarked slot =>
      cases hadvance
      exact .inr (.inr (.inl ⟨slot, rfl, rfl, rfl⟩))
  | reload =>
      cases hadvance
      exact .inr (.inr (.inr ⟨trivial, hself, le_rfl, fun _ h => h⟩))
  | reloadFound slot =>
      cases hadvance
      refine .inr (.inl ⟨slot, _, .inr (.inr rfl), ?_, rfl, hself⟩)
      intro cell hactive
      cases hactive
  | reloadDraining slot =>
      cases hadvance
      exact .inr (.inr (.inr ⟨trivial, hself, le_rfl, fun _ h => h⟩))
  | reloadDrained slot =>
      cases hadvance
      exact .inr (.inr (.inr ⟨trivial, hself, le_rfl, fun _ h => h⟩))
  | reloadSwapped slot =>
      cases hadvance
      exact .inr (.inr (.inr ⟨trivial, hself, by simp [Lifecycle.storeState],
        fun _ h => is_active_store_active h⟩))
  | finished => cases hadvance

/-! ## The invariant -/

/-- An id that two registries map to one slot is available in the second if the slot is active
there. -/
theorem Available.congr {registry next : Registry platform} {id : String}
    (h : Available registry id) (hslot : next.slotOf id = registry.slotOf id)
    (hactive : ∀ slot, isActive registry.slots slot = true → isActive next.slots slot = true) :
    Available next id := by
  obtain ⟨slot, hget, hstate⟩ := h
  exact ⟨slot, hslot.trans hget, hactive slot hstate⟩

/-- The slots of all ids depend on the map only. -/
theorem slot_of_congr {registry next : Registry platform}
    (hentries : next.entries = registry.entries) (id : String) :
    next.slotOf id = registry.slotOf id := by
  unfold Registry.slotOf Registry.get
  rw [hentries]

/-- Every entry of the map is a slot that was created. -/
def Created (registry : Registry platform) : Prop :=
  ∀ entry ∈ registry.entries, entry.slot < registry.slots.length

/-- The slot of an id was created. -/
theorem Created.slot_of_lt {registry : Registry platform} (h : Created registry) {id : String}
    {slot : Nat} (hslot : registry.slotOf id = some slot) : slot < registry.slots.length := by
  obtain ⟨entry, hfound, rfl⟩ := Option.map_eq_some_iff.mp hslot
  exact h entry (List.mem_of_find?_eq_some hfound)

/-- Every step creates the slot that it puts into the map. -/
theorem Created.step {registry next : Registry platform} {i : Nat} (h : Created registry)
    (hstep : step registry i = some next) : Created next := by
  obtain ⟨task, htask, _⟩ := Option.bind_eq_some_iff.mp hstep
  rcases step_cases htask hstep with ⟨call, -, -, -, hslots, hentries⟩ |
    ⟨slot, change, -, -, hslots, hentries⟩ | ⟨slot, -, hslots, hentries⟩ |
    ⟨-, hentries, hlength, -⟩ <;>
    intro entry hmem <;> rw [hentries] at hmem
  · rw [hslots, List.length_append]
    rcases List.mem_append.mp hmem with hmem | hmem
    · exact Nat.lt_add_right _ (h entry hmem)
    · obtain rfl := List.mem_singleton.mp hmem
      exact Nat.lt_add_one _
  · rw [hslots, List.length_modify]
    exact h entry hmem
  · rw [hslots]
    exact h entry (List.mem_filter.mp hmem).1
  · exact Nat.lt_of_lt_of_le (h entry hmem) hlength

/-- Registering a plugin keeps the dependencies met if and only if its own are. -/
theorem dependencies_met_register {registry next : Registry platform} {call : LoadCall platform}
    (hcreated : Created registry) (h : DependenciesMet registry)
    (hslots : next.slots = registry.slots ++ [{ state := .active, drained := false }])
    (hentries : next.entries = registry.entries ++ [{ slot := registry.slots.length, call }]) :
    DependenciesMet next ↔ checkDependencies registry call.loaded.manifest = .ok () := by
  have hslotOf := slot_of_register hentries
  have hkept : ∀ id, Available registry id → Available next id := by
    rintro id ⟨slot, hget, hactive⟩
    refine ⟨slot, by rw [hslotOf, hget]; rfl, ?_⟩
    rw [hslots, is_active_append, hactive]
    rfl
  rw [check_dependencies_eq_ok]
  constructor
  · intro hmet depId hdep
    have hmem : ({ slot := registry.slots.length, call } : Entry platform) ∈ next.entries := by
      rw [hentries]
      exact List.mem_append_right _ List.mem_cons_self
    obtain ⟨slot, hget, hactive⟩ := hmet _ hmem depId hdep
    have hother : call.loaded.manifest.id ≠ depId := by
      rintro rfl
      exact call.id_not_mem_dependencies hdep
    rw [hslotOf, if_neg hother, Option.or_none] at hget
    refine ⟨slot, hget, ?_⟩
    rw [hslots, is_active_append, Bool.or_eq_true] at hactive
    exact hactive.resolve_right fun hnew =>
      (hcreated.slot_of_lt hget).ne (by simpa using hnew)
  · intro hown entry hmem depId hdep
    rw [hentries] at hmem
    rcases List.mem_append.mp hmem with hmem | hmem
    · exact hkept depId (h entry hmem depId hdep)
    · obtain rfl := List.mem_singleton.mp hmem
      exact hkept depId (hown depId hdep)

/-- Deactivating a slot keeps the dependencies met if and only if no plugin needs it. -/
theorem dependencies_met_deactivate {registry next : Registry platform} {slot : Nat}
    {change : Lifecycle.Cell → Lifecycle.Cell} (h : DependenciesMet registry)
    (hchange : ∀ cell, (change cell).state ≠ .active)
    (hslots : next.slots = registry.slots.modify slot change)
    (hentries : next.entries = registry.entries) :
    DependenciesMet next ↔ ¬ Needed registry slot := by
  have hactive : ∀ other, isActive next.slots other =
      (isActive registry.slots other && slot != other) := by
    intro other
    rw [hslots, is_active_store hchange]
  constructor
  · rintro hmet ⟨entry, hmem, depId, hdep, hslot⟩
    obtain ⟨other, hget, hstate⟩ := hmet entry (by rwa [hentries]) depId hdep
    rw [slot_of_congr hentries, hslot, Option.some.injEq] at hget
    subst hget
    simp [hactive] at hstate
  · intro hneeded entry hmem depId hdep
    rw [hentries] at hmem
    obtain ⟨other, hget, hstate⟩ := h entry hmem depId hdep
    refine ⟨other, (slot_of_congr hentries depId).trans hget, ?_⟩
    have hother : slot ≠ other := by
      rintro rfl
      exact hneeded ⟨entry, hmem, depId, hdep, hget⟩
    rw [hactive, hstate]
    simpa using hother

/-- Removing an id keeps the dependencies met if and only if no plugin depends on it. -/
theorem dependencies_met_remove {registry next : Registry platform} {id : String}
    (h : DependenciesMet registry) (hslots : next.slots = registry.slots)
    (hentries : next.entries = registry.entries.filter fun entry => entry.manifest.id != id) :
    DependenciesMet next ↔ ¬ DependedOn registry id := by
  have hslotOf := slot_of_remove hentries
  constructor
  · rintro hmet ⟨entry, hmem, hdep⟩
    have hkept : entry ∈ next.entries := by
      rw [hentries]
      refine List.mem_filter.mpr ⟨hmem, bne_iff_ne.mpr ?_⟩
      rintro rfl
      exact entry.call.id_not_mem_dependencies hdep
    obtain ⟨slot, hget, _⟩ := hmet entry hkept id hdep
    rw [hslotOf, if_pos rfl] at hget
    cases hget
  · intro hfree entry hmem depId hdep
    rw [hentries] at hmem
    have hold := (List.mem_filter.mp hmem).1
    refine (h entry hold depId hdep).congr ?_ (by simp [hslots])
    rw [hslotOf, if_neg]
    rintro rfl
    exact hfree ⟨entry, hold, hdep⟩

/-- A map of created slots in which the dependencies are met. -/
structure Sound (registry : Registry platform) : Prop where
  created : Created registry
  met : DependenciesMet registry

/-- Where the dependencies are met, a step keeps them met if and only if it meets the
condition. -/
theorem dependencies_met_step_iff {registry next : Registry platform} {i : Nat}
    {task : Task platform} (h : Sound registry)
    (htask : registry.tasks[i]? = some task) (hstep : step registry i = some next) :
    DependenciesMet next ↔ KeepsDependencies registry task := by
  rcases step_cases htask hstep with ⟨call, hoperation, hrequest, hfree, hslots, hentries⟩ |
    ⟨slot, change, hoperation, hchange, hslots, hentries⟩ | ⟨slot, hoperation, hslots, hentries⟩ |
    ⟨hkeeps, hentries, -, hactive⟩
  · rw [dependencies_met_register h.created h.met hslots hentries]
    unfold KeepsDependencies
    rw [hoperation, hrequest]
    constructor
    · rintro hok _ ⟨⟩ _
      exact hok
    · intro hok
      exact hok call rfl hfree
  · rw [dependencies_met_deactivate h.met hchange hslots hentries]
    unfold KeepsDependencies
    rcases hoperation with hoperation | hoperation | hoperation <;> rw [hoperation]
  · rw [dependencies_met_remove h.met hslots hentries]
    unfold KeepsDependencies
    rw [hoperation]
  · refine iff_of_true (fun entry hmem depId hdep => ?_) hkeeps
    rw [hentries] at hmem
    exact (h.met entry hmem depId hdep).congr (slot_of_congr hentries depId) hactive

/-- The empty map is in order. -/
theorem start_sound (requests : List (Request platform)) : Sound (Registry.start requests) where
  created _ hmem := nomatch hmem
  met _ hmem := nomatch hmem

/-- In runs in which a plugin is only registered when `check_dependencies` accepts it, and no slot
is drained and no id removed while another plugin depends on it, each id that a registered plugin
lists as a dependency is registered and active. -/
theorem dependencies_met {requests : List (Request platform)} {events : List Nat}
    {registry : Registry platform}
    (hrun : run (restrict step StepKeeps) (.start requests) events = some registry) :
    DependenciesMet registry := by
  have hsound : Sound registry := by
    refine run_restrict_invariant ?_ (start_sound requests) hrun
    intro current i next h hkeeps hstep
    obtain ⟨task, htask, _⟩ := Option.bind_eq_some_iff.mp hstep
    exact {
      created := h.created.step hstep
      met := (dependencies_met_step_iff h htask hstep).mpr (hkeeps task htask) }
  exact hsound.met

/-- The sample platform with a plugin `reports` that depends on the plugin `sample`. -/
def dependencyPlatform : Platform :=
  { Invoke.samplePlatform with
    decodeManifest := fun bytes =>
      match bytes with
      | [1] => .ok (Invoke.sampleManifest [])
      | [2] => .ok { Invoke.sampleManifest [] with id := "reports", dependencies := ["sample"] }
      | _ => .error "unknown manifest" }

/-- A load of the plugin `sample`. -/
def sampleLoad : LoadCall dependencyPlatform where
  input := { wasmBytes := [1], sigData := none, trustedKeys := .notFound, tier := .untrusted }
  loaded := {
    manifest := Invoke.sampleManifest []
    tier := .untrusted
    module := .network
    limits := .forTier .untrusted }
  succeeded := rfl

/-- A load of the plugin `reports`. -/
def reportsLoad : LoadCall dependencyPlatform where
  input := { wasmBytes := [2], sigData := none, trustedKeys := .notFound, tier := .untrusted }
  loaded := {
    manifest := { Invoke.sampleManifest [] with id := "reports", dependencies := ["sample"] }
    tier := .untrusted
    module := .plain
    limits := .forTier .untrusted }
  succeeded := rfl

/-- The registry after both plugins are registered. -/
def bothRegistered : Registry dependencyPlatform where
  slots := [⟨.active, false⟩, ⟨.active, false⟩]
  entries := [⟨0, sampleLoad⟩, ⟨1, reportsLoad⟩]
  tasks := [⟨.register sampleLoad, .finished⟩, ⟨.register reportsLoad, .finished⟩]

/-- The registry after `sample` is unloaded and `reports` stays. -/
def reportsAlone : Registry dependencyPlatform where
  slots := [⟨.unloaded, true⟩, ⟨.active, false⟩]
  entries := [⟨1, reportsLoad⟩]
  tasks := [⟨.register sampleLoad, .finished⟩, ⟨.register reportsLoad, .finished⟩,
    ⟨.unload "sample", .finished⟩]

/-- `dependencies_met` for the two plugins, registered in the order of their dependency. -/
theorem dependencies_met_in_order :
    run (restrict step StepKeeps) (.start [.register sampleLoad, .register reportsLoad]) [0, 1] =
      some bothRegistered ∧ DependenciesMet bothRegistered := by
  have hrun : run (restrict step StepKeeps)
      (.start [.register sampleLoad, .register reportsLoad]) [0, 1] = some bothRegistered := rfl
  exact ⟨hrun, dependencies_met hrun⟩

/-- An unload of `sample` is carried out although `reports` depends on it. -/
theorem dependency_unloaded :
    run step (.start [.register sampleLoad, .register reportsLoad, .unload "sample"])
      [0, 1, 2, 2, 2, 2, 2] = some reportsAlone ∧ ¬ DependenciesMet reportsAlone := by
  refine ⟨rfl, fun hmet => ?_⟩
  obtain ⟨slot, hget, _⟩ := hmet ⟨1, reportsLoad⟩ List.mem_cons_self "sample" List.mem_cons_self
  cases hget

end CorvidNano.Host.Dependencies
