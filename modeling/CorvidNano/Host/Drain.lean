import CorvidNano.Library.Processes
import CorvidNano.Library.Runs

/-!
# The drain protocol of a plugin slot

The atomic steps of `PluginSlot` in `registry.rs`: `try_acquire` with the `CallGuard` it
returns, `drain_and_reload`, and `unload`. Each load, store, `fetch_add` and `fetch_sub` of
`state` and `active_calls` is one step of the machine, and so is the module swap, which the
write lock makes atomic. Any number of callers and reloads and one unload run interleaved.

Two overlapping reloads break the protocol (`overlapping_reloads_unsafe`): the first one's
`ACTIVE` store lets callers in while the second is about to swap. Where no reload activates
the slot in front of another that has not swapped yet, the drain is safe (`drain_safe`).
-/

namespace CorvidNano.Host

open Runs

/-- `STATE_ACTIVE`, `STATE_DRAINING` and `STATE_UNLOADED`. -/
inductive SlotState where
  | active
  | draining
  | unloaded
  deriving DecidableEq, Repr

namespace Drain

/-- The fields of a `PluginSlot` that its methods read and write after construction. -/
structure Slot (Module : Type) where
  state : SlotState
  activeCalls : Nat
  module : Module
  deriving DecidableEq

/-- Where a caller of `try_acquire` stands: before the call, after a first `is_active` that
held, after the `fetch_add`, after a second `is_active` that failed, or with a `CallGuard`. -/
inductive CallerPhase where
  | idle
  | checked
  | counted
  | refused
  | holding
  deriving DecidableEq

/-- Where a `drain_and_reload` stands: before its `DRAINING` store, in the drain loop, after
the loop, after the module swap, or after its `ACTIVE` store. -/
inductive ReloadPhase where
  | pending
  | draining
  | drained
  | swapped
  | finished
  deriving DecidableEq

/-- A `drain_and_reload` call with the module of its `new_plugin`. -/
structure Reload (Module : Type) where
  phase : ReloadPhase
  newModule : Module
  deriving DecidableEq

/-- Where `PluginSlot::unload` stands: before its `DRAINING` store, in the drain loop, after
the loop, or after its `UNLOADED` store. -/
inductive UnloadPhase where
  | pending
  | draining
  | drained
  | finished
  deriving DecidableEq

/-- One slot with everything that runs on it. -/
structure System (Module : Type) where
  slot : Slot Module
  callers : List CallerPhase
  reloads : List (Reload Module)
  unload : UnloadPhase
  deriving DecidableEq

/-- Which party takes its next atomic step. A deadline event is the turn of a drain loop that
finds its 30 seconds over and leaves the loop with calls still in flight. -/
inductive Event where
  | caller (i : Nat)
  | reload (j : Nat)
  | reloadDeadline (j : Nat)
  | unload
  | unloadDeadline
  deriving DecidableEq

variable {Module : Type}

/-- A slot as `PluginSlot::new` makes it, with callers and reloads that have not begun. -/
def System.start (module : Module) (callers : Nat) (newModules : List Module) :
    System Module where
  slot := { state := .active, activeCalls := 0, module }
  callers := List.replicate callers .idle
  reloads := newModules.map fun newModule => { phase := .pending, newModule }
  unload := .pending

/-- `PluginSlot::is_active`. -/
def Slot.isActive (slot : Slot Module) : Bool :=
  slot.state == .active

/-- The next atomic step of `try_acquire`, or of dropping the `CallGuard`. -/
def tryAcquireStep (slot : Slot Module) : CallerPhase → Slot Module × CallerPhase
  -- A caller that finds the slot inactive returns `None` and may try again.
  | .idle => (slot, if slot.isActive then .checked else .idle)
  | .checked => ({ slot with activeCalls := slot.activeCalls + 1 }, .counted)
  -- The second look at `state`, after the counter already includes this call.
  | .counted => (slot, if slot.isActive then .holding else .refused)
  | .refused => ({ slot with activeCalls := slot.activeCalls - 1 }, .idle)
  | .holding => ({ slot with activeCalls := slot.activeCalls - 1 }, .idle)

/-- The next atomic step of `drain_and_reload`. -/
def drainAndReloadStep (slot : Slot Module) (reload : Reload Module) :
    Option (Slot Module × ReloadPhase) :=
  match reload.phase with
  | .pending => some ({ slot with state := .draining }, .draining)
  | .draining => some (slot, if slot.activeCalls = 0 then .drained else .draining)
  | .drained => some ({ slot with module := reload.newModule }, .swapped)
  -- The store does not look at `state`: another drain may have begun in the meantime.
  | .swapped => some ({ slot with state := .active }, .finished)
  | .finished => none

/-- The next atomic step of `PluginSlot::unload`. -/
def unloadStep (slot : Slot Module) : UnloadPhase → Option (Slot Module × UnloadPhase)
  | .pending => some ({ slot with state := .draining }, .draining)
  | .draining => some (slot, if slot.activeCalls = 0 then .drained else .draining)
  | .drained => some ({ slot with state := .unloaded }, .finished)
  | .finished => none

/-- One atomic step of the system. -/
def step (system : System Module) : Event → Option (System Module)
  | .caller i => do
      let phase ← system.callers[i]?
      let (slot, next) := tryAcquireStep system.slot phase
      pure { system with slot, callers := system.callers.set i next }
  | .reload j => do
      let reload ← system.reloads[j]?
      let (slot, phase) ← drainAndReloadStep system.slot reload
      pure { system with slot, reloads := system.reloads.set j { reload with phase } }
  | .reloadDeadline j => do
      let reload ← system.reloads[j]?
      guard (reload.phase = .draining)
      pure { system with reloads := system.reloads.set j { reload with phase := .drained } }
  | .unload => do
      let (slot, unload) ← unloadStep system.slot system.unload
      pure { system with slot, unload }
  | .unloadDeadline => do
      guard (system.unload = .draining)
      pure { system with unload := .drained }

/-! ## What each party can do -/

/-- A caller's step changes only the slot and that caller. -/
theorem step_caller_eq_some {system next : System Module} {i : Nat} :
    step system (.caller i) = some next ↔ ∃ phase, system.callers[i]? = some phase ∧
      next = { system with
        slot := (tryAcquireStep system.slot phase).1
        callers := system.callers.set i (tryAcquireStep system.slot phase).2 } := by
  simp [step, Option.bind_eq_some_iff, eq_comm (a := next)]

/-- A reload's step changes only the slot and that reload's phase. -/
theorem step_reload_eq_some {system next : System Module} {j : Nat} :
    step system (.reload j) = some next ↔ ∃ reload slot phase,
      system.reloads[j]? = some reload ∧
      drainAndReloadStep system.slot reload = some (slot, phase) ∧
      next = { system with slot, reloads := system.reloads.set j { reload with phase } } := by
  simp [step, Option.bind_eq_some_iff, eq_comm (a := next)]

/-- The unload's step changes only the slot and the unload's phase. -/
theorem step_unload_eq_some {system next : System Module} :
    step system .unload = some next ↔ ∃ slot unload,
      unloadStep system.slot system.unload = some (slot, unload) ∧
      next = { system with slot, unload } := by
  simp [step, Option.bind_eq_some_iff, eq_comm (a := next)]

/-- A drain loop that gives up changes only that reload's phase. -/
theorem step_reload_deadline_eq_some {system next : System Module} {j : Nat} :
    step system (.reloadDeadline j) = some next ↔ ∃ reload,
      system.reloads[j]? = some reload ∧ reload.phase = .draining ∧
      next = { system with
        reloads := system.reloads.set j { reload with phase := .drained } } := by
  simp [step, Option.bind_eq_some_iff, guard, eq_comm (a := next)]

/-- The unload's drain loop that gives up changes only the unload's phase. -/
theorem step_unload_deadline_eq_some {system next : System Module} :
    step system .unloadDeadline = some next ↔
      system.unload = .draining ∧ next = { system with unload := .drained } := by
  simp [step, Option.bind_eq_some_iff, guard, eq_comm (a := next)]

/-- A step on the slot by another party than a caller leaves the callers alone. -/
theorem step_callers {system next : System Module} {event : Event}
    (hstep : step system event = some next) (hevent : ∀ i, event ≠ .caller i) :
    next.callers = system.callers := by
  cases event with
  | caller i => exact absurd rfl (hevent i)
  | reload j =>
      obtain ⟨_, _, _, _, _, rfl⟩ := step_reload_eq_some.mp hstep
      rfl
  | reloadDeadline j =>
      obtain ⟨_, _, _, rfl⟩ := step_reload_deadline_eq_some.mp hstep
      rfl
  | unload =>
      obtain ⟨_, _, _, rfl⟩ := step_unload_eq_some.mp hstep
      rfl
  | unloadDeadline =>
      obtain ⟨_, rfl⟩ := step_unload_deadline_eq_some.mp hstep
      rfl

/-- `drain_and_reload` never touches the call counter. -/
theorem drain_and_reload_active_calls {slot slot' : Slot Module} {reload : Reload Module}
    {phase : ReloadPhase} (h : drainAndReloadStep slot reload = some (slot', phase)) :
    slot'.activeCalls = slot.activeCalls := by
  cases hphase : reload.phase <;> simp only [drainAndReloadStep, hphase] at h <;> grind

/-- `unload` never touches the call counter. -/
theorem unload_active_calls {slot slot' : Slot Module} {phase phase' : UnloadPhase}
    (h : unloadStep slot phase = some (slot', phase')) :
    slot'.activeCalls = slot.activeCalls := by
  cases phase <;> simp only [unloadStep] at h <;> grind

/-! ## The call counter -/

/-- The callers that `active_calls` includes: those between the `fetch_add` and the matching
`fetch_sub`. -/
def CallerPhase.isCounted : CallerPhase → Bool
  | .counted | .refused | .holding => true
  | .idle | .checked => false

/-- `active_calls` is the number of callers between their `fetch_add` and `fetch_sub`. -/
def Counted (system : System Module) : Prop :=
  system.slot.activeCalls = system.callers.countP CallerPhase.isCounted

/-- A step of `try_acquire` moves the counter exactly with the caller. -/
theorem counted_caller {system : System Module} {i : Nat} {phase : CallerPhase}
    (h : Counted system) (hphase : system.callers[i]? = some phase) :
    (tryAcquireStep system.slot phase).1.activeCalls =
      (system.callers.set i (tryAcquireStep system.slot phase).2).countP
        CallerPhase.isCounted := by
  have hset := Processes.countP_set_add CallerPhase.isCounted
    (tryAcquireStep system.slot phase).2 hphase
  unfold Counted at h
  cases phase with
  | idle | counted =>
      cases hactive : system.slot.isActive <;>
        simp_all [tryAcquireStep, CallerPhase.isCounted]
  | checked => simp_all [tryAcquireStep, CallerPhase.isCounted]
  | refused | holding =>
      simp only [tryAcquireStep, CallerPhase.isCounted, if_true] at hset ⊢
      simp only [Bool.false_eq_true, if_false] at hset
      omega

/-- Every atomic step keeps the counter exact. -/
theorem counted_step {system next : System Module} {event : Event} (h : Counted system)
    (hstep : step system event = some next) : Counted next := by
  cases event with
  | caller i =>
      obtain ⟨phase, hphase, rfl⟩ := step_caller_eq_some.mp hstep
      exact counted_caller h hphase
  | reload j =>
      obtain ⟨reload, slot, phase, _, hreload, rfl⟩ := step_reload_eq_some.mp hstep
      exact (drain_and_reload_active_calls hreload).trans h
  | reloadDeadline j =>
      obtain ⟨reload, _, _, rfl⟩ := step_reload_deadline_eq_some.mp hstep
      exact h
  | unload =>
      obtain ⟨slot, phase, hunload, rfl⟩ := step_unload_eq_some.mp hstep
      exact (unload_active_calls hunload).trans h
  | unloadDeadline =>
      obtain ⟨_, rfl⟩ := step_unload_deadline_eq_some.mp hstep
      exact h

/-- A fresh slot counts no calls. -/
theorem counted_start (module : Module) (callers : Nat) (newModules : List Module) :
    Counted (System.start module callers newModules) := by
  simp [Counted, System.start, List.countP_replicate, CallerPhase.isCounted]

/-- A slot whose counter reads zero has no `CallGuard` outside. -/
theorem not_holding_of_active_calls_eq_zero {system : System Module} (h : Counted system)
    (hzero : system.slot.activeCalls = 0) : .holding ∉ system.callers := by
  have hnone := List.countP_eq_zero.mp (h.symm.trans hzero)
  intro hmem
  exact hnone _ hmem rfl

/-! ## Safety of the drain -/

/-- The event swaps the slot's module. -/
def ReplacesModule (system : System Module) : Event → Prop
  | .reload j => (system.reloads[j]?.map Reload.phase) = some .drained
  | _ => False

/-- The event is the second `is_active` of a `try_acquire` that succeeds. -/
def Acquires (system : System Module) : Event → Prop
  | .caller i => system.callers[i]? = some .counted ∧ system.slot.state = .active
  | _ => False

/-- Some `CallGuard` of the slot is held. -/
def GuardHeld (system : System Module) : Prop :=
  .holding ∈ system.callers

/-- Some reload has left its drain loop and has not swapped the module yet. -/
def SwapPending (system : System Module) : Prop :=
  ∃ reload ∈ system.reloads, reload.phase = .drained

/-- What the drain protocol promises of the next step: no swap under a held guard, and no
acquisition between the end of a drain and its swap. -/
def Safe (system : System Module) (event : Event) : Prop :=
  (ReplacesModule system event → ¬ GuardHeld system) ∧
    (Acquires system event → ¬ SwapPending system)

/-- The event is a drain loop giving up. -/
def Event.isDeadline : Event → Bool
  | .reloadDeadline _ | .unloadDeadline => true
  | .caller _ | .reload _ | .unload => false

/-- If the event is the `ACTIVE` store of a reload, no reload is between its `DRAINING` store
and its swap. -/
def ActivatesAlone (system : System Module) : Event → Prop
  | .reload j => (system.reloads[j]?.map Reload.phase) = some .swapped →
      ∀ reload ∈ system.reloads, reload.phase ≠ .draining ∧ reload.phase ≠ .drained
  | _ => True

/-- `ActivatesAlone` is decided by looking through the reloads. -/
instance (system : System Module) (event : Event) : Decidable (ActivatesAlone system event) :=
  match event with
  | .reload j =>
      inferInstanceAs (Decidable ((system.reloads[j]?.map Reload.phase) = some .swapped →
        ∀ reload ∈ system.reloads, reload.phase ≠ .draining ∧ reload.phase ≠ .drained))
  | .caller _ | .reloadDeadline _ | .unload | .unloadDeadline => inferInstanceAs (Decidable True)

/-- The slot stays out of `ACTIVE` from a reload's first store to its swap, and no guard is
held from the end of its drain loop to its swap. -/
structure Draining (system : System Module) : Prop where
  counted : Counted system
  notActive : ∀ reload ∈ system.reloads, reload.phase = .draining ∨ reload.phase = .drained →
    system.slot.state ≠ .active
  noGuard : SwapPending system → ¬ GuardHeld system

/-- A pending swap keeps the slot out of `ACTIVE`. -/
theorem Draining.not_active_of_swap_pending {system : System Module} (h : Draining system)
    (hpending : SwapPending system) : system.slot.state ≠ .active := by
  obtain ⟨reload, hmem, hphase⟩ := hpending
  exact h.notActive reload hmem (.inr hphase)

/-- The invariant gives the promise for every next step. -/
theorem Draining.safe {system : System Module} (h : Draining system) (event : Event) :
    Safe system event := by
  constructor
  · intro hreplaces
    cases event with
    | reload j =>
        obtain ⟨reload, hreload, hphase⟩ := Option.map_eq_some_iff.mp hreplaces
        exact h.noGuard ⟨reload, List.mem_of_getElem? hreload, hphase⟩
    | caller | reloadDeadline | unload | unloadDeadline => exact hreplaces.elim
  · intro hacquires hpending
    cases event with
    | caller i => exact h.not_active_of_swap_pending hpending hacquires.2
    | reload | reloadDeadline | unload | unloadDeadline => exact hacquires

/-- `try_acquire` hands out a guard only when its second `is_active` finds the slot active. -/
theorem active_of_acquire {slot : Slot Module} {phase : CallerPhase}
    (h : (tryAcquireStep slot phase).2 = .holding) : slot.state = .active := by
  cases phase with
  | idle | checked | refused | holding => simp [tryAcquireStep] at h; try grind
  | counted => simpa [tryAcquireStep, Slot.isActive] using h

/-- A caller never starts to hold a guard while a swap is pending. -/
theorem Draining.caller {system : System Module} {i : Nat} {phase : CallerPhase}
    (h : Draining system) (hphase : system.callers[i]? = some phase) :
    Draining { system with
      slot := (tryAcquireStep system.slot phase).1
      callers := system.callers.set i (tryAcquireStep system.slot phase).2 } := by
  have hstate : (tryAcquireStep system.slot phase).1.state = system.slot.state := by
    cases phase <;> rfl
  refine ⟨counted_caller h.counted hphase, fun reload hmem hdraining => ?_,
    fun hpending hheld => ?_⟩
  · exact hstate ▸ h.notActive reload hmem hdraining
  · rcases List.mem_or_eq_of_mem_set hheld with hmem | hnew
    · exact h.noGuard hpending hmem
    · exact h.not_active_of_swap_pending hpending (active_of_acquire hnew.symm)

/-- A reload's step keeps the invariant when its activation is alone. -/
theorem Draining.reload {system : System Module} {j : Nat} {reload : Reload Module}
    {slot : Slot Module} {phase : ReloadPhase} (h : Draining system)
    (halone : ActivatesAlone system (.reload j)) (hreload : system.reloads[j]? = some reload)
    (hstep : drainAndReloadStep system.slot reload = some (slot, phase)) :
    Draining { system with slot, reloads := system.reloads.set j { reload with phase } } := by
  have hmem := List.mem_of_getElem? hreload
  have hcounted := (drain_and_reload_active_calls hstep).trans h.counted
  cases hphase : reload.phase with
  | pending =>
      simp only [drainAndReloadStep, hphase, Option.some.injEq, Prod.mk.injEq] at hstep
      obtain ⟨rfl, rfl⟩ := hstep
      refine ⟨hcounted, fun _ _ _ => by simp, fun ⟨other, hother, hdrained⟩ => ?_⟩
      rcases List.mem_or_eq_of_mem_set hother with hother | rfl
      · exact h.noGuard ⟨other, hother, hdrained⟩
      · cases hdrained
  | draining =>
      simp only [drainAndReloadStep, hphase, Option.some.injEq, Prod.mk.injEq] at hstep
      obtain ⟨rfl, rfl⟩ := hstep
      refine ⟨hcounted, fun other hother hdraining => ?_, fun ⟨other, hother, hdrained⟩ => ?_⟩
      · rcases List.mem_or_eq_of_mem_set hother with hother | rfl
        · exact h.notActive other hother hdraining
        · exact h.notActive reload hmem (.inl hphase)
      · rcases List.mem_or_eq_of_mem_set hother with hother | rfl
        · exact h.noGuard ⟨other, hother, hdrained⟩
        · -- The loop ends on a counter that reads zero, and then no guard is outside.
          have hzero : system.slot.activeCalls = 0 := by
            by_contra hne
            simp [hne] at hdrained
          exact not_holding_of_active_calls_eq_zero h.counted hzero
  | drained =>
      simp only [drainAndReloadStep, hphase, Option.some.injEq, Prod.mk.injEq] at hstep
      obtain ⟨rfl, rfl⟩ := hstep
      refine ⟨hcounted, fun _ _ _ => h.notActive reload hmem (.inr hphase), fun _ => ?_⟩
      exact h.noGuard ⟨reload, hmem, hphase⟩
  | swapped =>
      -- This store is the one that could open another reload's window: here it has none.
      have hothers := halone (by simp [hreload, hphase])
      simp only [drainAndReloadStep, hphase, Option.some.injEq, Prod.mk.injEq] at hstep
      obtain ⟨rfl, rfl⟩ := hstep
      have hnone : ∀ other ∈ system.reloads.set j { reload with phase := .finished },
          other.phase ≠ .draining ∧ other.phase ≠ .drained := by
        intro other hother
        rcases List.mem_or_eq_of_mem_set hother with hother | rfl
        · exact hothers other hother
        · simp
      refine ⟨hcounted, fun other hother hdraining => ?_, fun ⟨other, hother, hdrained⟩ => ?_⟩
      · exact absurd hdraining (not_or.mpr (hnone other hother))
      · exact absurd hdrained (hnone other hother).2
  | finished => simp [drainAndReloadStep, hphase] at hstep

/-- The unload only ever leaves `ACTIVE` and swaps nothing. -/
theorem Draining.unload {system : System Module} {slot : Slot Module} {phase : UnloadPhase}
    (h : Draining system) (hstep : unloadStep system.slot system.unload = some (slot, phase)) :
    Draining { system with slot, unload := phase } := by
  have hstate : slot.state = .active → system.slot.state = .active := by
    cases hphase : system.unload <;> simp [unloadStep, hphase] at hstep <;> grind
  exact ⟨(unload_active_calls hstep).trans h.counted,
    fun reload hmem hdraining hactive => h.notActive reload hmem hdraining (hstate hactive),
    h.noGuard⟩

/-- Every step without a deadline and with a lone activation keeps the invariant. -/
theorem Draining.step {system next : System Module} {event : Event} (h : Draining system)
    (hallowed : event.isDeadline = false ∧ ActivatesAlone system event)
    (hstep : step system event = some next) : Draining next := by
  cases event with
  | caller i =>
      obtain ⟨phase, hphase, rfl⟩ := step_caller_eq_some.mp hstep
      exact h.caller hphase
  | reload j =>
      obtain ⟨reload, slot, phase, hreload, hslot, rfl⟩ := step_reload_eq_some.mp hstep
      exact h.reload hallowed.2 hreload hslot
  | unload =>
      obtain ⟨slot, phase, hunload, rfl⟩ := step_unload_eq_some.mp hstep
      exact h.unload hunload
  | reloadDeadline | unloadDeadline => cases hallowed.1

/-- A fresh slot with calls and reloads that have not begun satisfies the invariant. -/
theorem draining_start (module : Module) (callers : Nat) (newModules : List Module) :
    Draining (System.start module callers newModules) := by
  refine ⟨counted_start module callers newModules, fun reload hmem hphase => ?_, fun _ => ?_⟩
  · obtain ⟨newModule, _, rfl⟩ := List.mem_map.mp hmem
    simp at hphase
  · simp [GuardHeld, System.start]

/-- In every run without a drain timeout, in which a reload stores `ACTIVE` only when no other
reload stands between its `DRAINING` store and its swap, the next step never swaps the module
under a held guard and never acquires between the end of a drain and its swap. -/
theorem drain_safe (module : Module) (callers : Nat) (newModules : List Module)
    (events : List Event) {system : System Module}
    (hrun : run (restrict step fun system event =>
        event.isDeadline = false ∧ ActivatesAlone system event)
      (System.start module callers newModules) events = some system)
    (event : Event) : Safe system event :=
  (run_restrict_invariant Draining.step (draining_start module callers newModules) hrun).safe
    event

/-- Two reloads one after the other with a call between them: the second swap is safe. -/
theorem drain_safe_sequential_reloads :
    Safe { slot := { state := .draining, activeCalls := 0, module := "v2" }
           callers := [.idle]
           reloads := [⟨.finished, "v2"⟩, ⟨.drained, "v3"⟩]
           unload := .pending } (.reload 1) :=
  drain_safe "v1" 1 ["v2", "v3"]
    [.reload 0, .reload 0, .reload 0, .reload 0, .caller 0, .caller 0, .caller 0,
      .reload 1, .reload 1, .caller 0, .reload 1] (by decide) (.reload 1)

/-- Two overlapping reloads and one caller, without any drain timeout: the first reload's
`ACTIVE` store lets the caller in after the second reload has seen zero active calls, and the
second reload swaps the module under the caller's guard. -/
theorem overlapping_reloads_unsafe :
    ¬ ∀ (module : String) (callers : Nat) (newModules : List String) (events : List Event)
        (system : System String) (event : Event),
      (∀ event ∈ events, event.isDeadline = false) →
      run step (System.start module callers newModules) events = some system →
      Safe system event := by
  intro h
  have hsafe := h "v1" 1 ["v2", "v3"]
    [.reload 0, .reload 1, .reload 0, .reload 1, .reload 0, .reload 0, .caller 0, .caller 0,
      .caller 0]
    { slot := { state := .active, activeCalls := 1, module := "v2" }
      callers := [.holding]
      reloads := [⟨.finished, "v2"⟩, ⟨.drained, "v3"⟩]
      unload := .pending } (.reload 1) (by decide) (by decide)
  exact hsafe.1 (by simp [ReplacesModule]) (by simp [GuardHeld])

end Drain
end CorvidNano.Host
