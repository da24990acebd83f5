import CorvidNano.Host.Drain

/-!
# WASM executions under the drain protocol

`handle_invoke` and `handle_event` in `main.rs` take a `CallGuard`, start the WASM execution
on a blocking thread and wait for it. `handle_invoke` waits under `tokio::time::timeout`: when
the time is over the handler returns and drops its guard, while the blocking thread runs on.
The machine adds these threads to the slot machine of `CorvidNano.Host.Drain`, and
`run_system` maps its runs to runs of that machine.

`active_calls_cover_executions` is the main result: as long as no timeout fires before its
execution has returned, the counter covers every running execution.
`timed_out_execution_uncounted` is a run in which it does not.
-/

namespace CorvidNano.Host.Executions

open Runs

/-- Which handler makes a call. Only `handle_invoke` has a timeout. -/
inductive CallKind where
  | invoke
  | event
  deriving DecidableEq

/-- Where the blocking thread of a call stands: not handed to `spawn_blocking` yet, waiting
for a thread, running the plugin, or back. -/
inductive Phase where
  | notSpawned
  | queued
  | running
  | returned
  deriving DecidableEq

/-- The blocking thread of one call. -/
structure Execution where
  kind : CallKind
  phase : Phase
  deriving DecidableEq

/-- A slot with its callers and drains, and beside each caller its blocking thread. -/
structure Machine (Module : Type) where
  system : Drain.System Module
  executions : List Execution
  deriving DecidableEq

/-- One turn: an atomic step on the slot other than dropping a guard, the hand-over to
`spawn_blocking`, the start and the end of the execution, the handler's return with the
result, or the handler's return on the timeout. Both returns drop the guard. The timeout can
still fire when the execution has returned and its thread has not been joined yet. -/
inductive Event where
  | slot (event : Drain.Event)
  | spawn (i : Nat)
  | begin (i : Nat)
  | finish (i : Nat)
  | complete (i : Nat)
  | timeout (i : Nat)
  deriving DecidableEq

variable {Module : Type}

/-- A fresh slot, calls of the given kinds that have not begun, and reloads likewise. -/
def Machine.start (module : Module) (kinds : List CallKind) (newModules : List Module) :
    Machine Module where
  system := Drain.System.start module kinds.length newModules
  executions := kinds.map fun kind => { kind, phase := .notSpawned }

/-- The thread of call `i` moves on from phase `old`. -/
def advance (machine : Machine Module) (i : Nat) (old new : Phase) : Option (Machine Module) := do
  let execution ← machine.executions[i]?
  guard (execution.phase = old)
  pure { machine with executions := machine.executions.set i { execution with phase := new } }

/-- The handler of call `i` returns and drops its `CallGuard`. -/
def dropGuard (machine : Machine Module) (i : Nat) : Option (Machine Module) := do
  guard (machine.system.callers[i]? = some .holding)
  let system ← Drain.step machine.system (.caller i)
  pure { machine with system }

/-- A step of `try_acquire` belongs to a call that has neither a guard nor a thread yet. -/
def BeforeSpawn (machine : Machine Module) : Drain.Event → Prop
  | .caller i => machine.system.callers[i]? ≠ some .holding ∧
      (machine.executions[i]?.map Execution.phase) = some .notSpawned
  | _ => True

/-- `BeforeSpawn` compares two program points. -/
instance (machine : Machine Module) (event : Drain.Event) :
    Decidable (BeforeSpawn machine event) :=
  match event with
  | .caller i => inferInstanceAs (Decidable (machine.system.callers[i]? ≠ some .holding ∧
      (machine.executions[i]?.map Execution.phase) = some .notSpawned))
  | .reload _ | .reloadDeadline _ | .unload | .unloadDeadline => inferInstanceAs (Decidable True)

/-- One step of the host. -/
def step (machine : Machine Module) : Event → Option (Machine Module)
  | .slot event => do
      guard (BeforeSpawn machine event)
      let system ← Drain.step machine.system event
      pure { machine with system }
  | .spawn i => do
      guard (machine.system.callers[i]? = some .holding)
      advance machine i .notSpawned .queued
  | .begin i => advance machine i .queued .running
  | .finish i => advance machine i .running .returned
  | .complete i => do
      guard ((machine.executions[i]?.map Execution.phase) = some .returned)
      dropGuard machine i
  -- Only the handler stops waiting: the thread is neither told nor stopped.
  | .timeout i => do
      let execution ← machine.executions[i]?
      guard (execution.kind = .invoke ∧ execution.phase ≠ .notSpawned)
      dropGuard machine i

/-! ## What each step does -/

/-- A thread that moves on changes nothing but its own phase. -/
theorem advance_eq_some {machine next : Machine Module} {i : Nat} {old new : Phase} :
    advance machine i old new = some next ↔ ∃ execution,
      machine.executions[i]? = some execution ∧ execution.phase = old ∧
      next = { machine with
        executions := machine.executions.set i { execution with phase := new } } := by
  simp [advance, Option.bind_eq_some_iff, guard, eq_comm (a := next)]

/-- Dropping a guard is the last step of `try_acquire`'s caller on the slot. -/
theorem drop_guard_eq_some {machine next : Machine Module} {i : Nat} :
    dropGuard machine i = some next ↔ machine.system.callers[i]? = some .holding ∧
      ∃ system, Drain.step machine.system (.caller i) = some system ∧
        next = { machine with system } := by
  simp [dropGuard, Option.bind_eq_some_iff, guard, eq_comm (a := next)]

/-- A slot step leaves the threads alone. -/
theorem step_slot_eq_some {machine next : Machine Module} {event : Drain.Event} :
    step machine (.slot event) = some next ↔ BeforeSpawn machine event ∧
      ∃ system, Drain.step machine.system event = some system ∧
        next = { machine with system } := by
  simp [step, Option.bind_eq_some_iff, guard, eq_comm (a := next)]

/-- A call spawns its thread under its guard. -/
theorem step_spawn_eq_some {machine next : Machine Module} {i : Nat} :
    step machine (.spawn i) = some next ↔ machine.system.callers[i]? = some .holding ∧
      advance machine i .notSpawned .queued = some next := by
  simp [step, Option.bind_eq_some_iff, guard]

/-- A handler returns with the result once its thread is back. -/
theorem step_complete_eq_some {machine next : Machine Module} {i : Nat} :
    step machine (.complete i) = some next ↔
      (machine.executions[i]?.map Execution.phase) = some .returned ∧
      dropGuard machine i = some next := by
  simp [step, Option.bind_eq_some_iff, guard]

/-- `handle_invoke` returns on the timeout at any time after it has spawned its thread. -/
theorem step_timeout_eq_some {machine next : Machine Module} {i : Nat} :
    step machine (.timeout i) = some next ↔ ∃ execution,
      machine.executions[i]? = some execution ∧
      (execution.kind = .invoke ∧ execution.phase ≠ .notSpawned) ∧
      dropGuard machine i = some next := by
  simp [step, Option.bind_eq_some_iff, guard]

/-- The slot machine's part of an event. -/
def slotEvents : Event → List Drain.Event
  | .slot event => [event]
  | .complete i | .timeout i => [.caller i]
  | .spawn _ | .begin _ | .finish _ => []

/-- A dropped guard is one step of the slot machine. -/
theorem drop_guard_system {machine next : Machine Module} {i : Nat}
    (h : dropGuard machine i = some next) :
    run Drain.step machine.system [.caller i] = some next.system := by
  obtain ⟨_, system, hsystem, rfl⟩ := drop_guard_eq_some.mp h
  exact run_cons_eq_some.mpr ⟨system, hsystem, rfl⟩

/-- Every step of the host is a run of the slot machine. -/
theorem step_system {machine next : Machine Module} {event : Event}
    (h : step machine event = some next) :
    run Drain.step machine.system (slotEvents event) = some next.system := by
  cases event with
  | slot event =>
      obtain ⟨_, system, hsystem, rfl⟩ := step_slot_eq_some.mp h
      exact run_cons_eq_some.mpr ⟨system, hsystem, rfl⟩
  | spawn i =>
      obtain ⟨_, _, _, rfl⟩ := advance_eq_some.mp (step_spawn_eq_some.mp h).2
      rfl
  | begin i | finish i =>
      obtain ⟨_, _, _, rfl⟩ := advance_eq_some.mp h
      rfl
  | complete i => exact drop_guard_system (step_complete_eq_some.mp h).2
  | timeout i =>
      obtain ⟨_, _, _, hdrop⟩ := step_timeout_eq_some.mp h
      exact drop_guard_system hdrop

/-- Every run of the host is a run of the slot machine. -/
theorem run_system {start final : Machine Module} {events : List Event}
    (hrun : run step start events = some final) :
    run Drain.step start.system (events.flatMap slotEvents) = some final.system :=
  run_simulation Machine.system slotEvents step_system hrun

/-- After every run of the host the call counter is exact. -/
theorem run_counted {module : Module} {kinds : List CallKind} {newModules : List Module}
    {events : List Event} {machine : Machine Module}
    (hrun : run step (Machine.start module kinds newModules) events = some machine) :
    Drain.Counted machine.system :=
  run_invariant Drain.counted_step (Drain.counted_start module kinds.length newModules)
    (run_system hrun)

/-! ## Executions and guards -/

/-- The number of WASM executions that have been started and have not returned. -/
def Machine.runningExecutions (machine : Machine Module) : Nat :=
  machine.executions.countP fun execution => execution.phase = .running

/-- If the event is a call's timeout, the call's execution has returned. -/
def TimeoutAfterReturn (machine : Machine Module) : Event → Prop
  | .timeout i => (machine.executions[i]?.map Execution.phase) = some .returned
  | _ => True

/-- `TimeoutAfterReturn` looks at one thread. -/
instance (machine : Machine Module) (event : Event) : Decidable (TimeoutAfterReturn machine event) :=
  match event with
  | .timeout i =>
      inferInstanceAs (Decidable ((machine.executions[i]?.map Execution.phase) = some .returned))
  | .slot _ | .spawn _ | .begin _ | .finish _ | .complete _ => inferInstanceAs (Decidable True)

/-- A call whose thread waits or runs still holds its guard. -/
def Covers (caller : Drain.CallerPhase) (execution : Execution) : Prop :=
  execution.phase = .queued ∨ execution.phase = .running → caller = .holding

/-- Every call covers its own thread. -/
def Covered (machine : Machine Module) : Prop :=
  List.Forall₂ Covers machine.system.callers machine.executions

/-- A call without a waiting or running thread may move anywhere. -/
theorem Covered.set_caller {machine : Machine Module} {i : Nat} {caller : Drain.CallerPhase}
    (h : Covered machine) (hidle : ∀ execution, machine.executions[i]? = some execution →
      execution.phase ≠ .queued ∧ execution.phase ≠ .running) :
    List.Forall₂ Covers (machine.system.callers.set i caller) machine.executions :=
  Processes.forall₂_set_left h fun execution hexecution hphase =>
    absurd hphase (not_or.mpr (hidle execution hexecution))

/-- A thread whose call holds its guard may move to any phase. -/
theorem Covered.advance {machine next : Machine Module} {i : Nat} {old new : Phase}
    (h : Covered machine) (hstep : advance machine i old new = some next)
    (hnew : new = .queued ∨ new = .running → machine.system.callers[i]? = some .holding) :
    Covered next := by
  obtain ⟨_, _, _, rfl⟩ := advance_eq_some.mp hstep
  refine Processes.forall₂_set_right h fun caller hcaller hphase => ?_
  exact Option.some.inj (hcaller.symm.trans (hnew hphase))

/-- A call with a waiting or running thread is found with its guard. -/
theorem Covered.holding {machine : Machine Module} {i : Nat} {execution : Execution}
    (h : Covered machine) (hexecution : machine.executions[i]? = some execution)
    (hphase : execution.phase = .queued ∨ execution.phase = .running) :
    machine.system.callers[i]? = some .holding := by
  obtain ⟨hi, rfl⟩ := List.getElem?_eq_some_iff.mp hexecution
  have hlength := h.length_eq
  have hcovers := h.get (i := i) (by omega) hi
  rw [List.getElem?_eq_getElem (by omega)]
  exact congrArg some (hcovers hphase)

/-- A handler that returns with its thread back leaves no thread uncovered. -/
theorem Covered.dropGuard {machine next : Machine Module} {i : Nat} (h : Covered machine)
    (hreturned : (machine.executions[i]?.map Execution.phase) = some .returned)
    (hdrop : dropGuard machine i = some next) : Covered next := by
  obtain ⟨_, system, hsystem, rfl⟩ := drop_guard_eq_some.mp hdrop
  obtain ⟨_, _, rfl⟩ := Drain.step_caller_eq_some.mp hsystem
  refine h.set_caller fun execution hexecution => ?_
  rw [hexecution] at hreturned
  simp_all

/-- Every step but an early timeout keeps each running thread under its call's guard. -/
theorem Covered.step {machine next : Machine Module} {event : Event} (h : Covered machine)
    (hevent : TimeoutAfterReturn machine event) (hstep : step machine event = some next) :
    Covered next := by
  cases event with
  | slot event =>
      obtain ⟨hbefore, system, hsystem, rfl⟩ := step_slot_eq_some.mp hstep
      cases event with
      | caller i =>
          obtain ⟨_, _, rfl⟩ := Drain.step_caller_eq_some.mp hsystem
          refine h.set_caller fun execution hexecution => ?_
          have hphase := hbefore.2
          rw [hexecution] at hphase
          simp_all
      | reload | reloadDeadline | unload | unloadDeadline =>
          have hcallers := Drain.step_callers hsystem (by simp)
          simpa [Covered, hcallers] using h
  | spawn i =>
      obtain ⟨hholding, hadvance⟩ := step_spawn_eq_some.mp hstep
      exact h.advance hadvance fun _ => hholding
  | begin i =>
      obtain ⟨execution, hexecution, hphase, _⟩ := advance_eq_some.mp hstep
      exact h.advance hstep fun _ => h.holding hexecution (.inl hphase)
  | finish i => exact h.advance hstep (by simp)
  | complete i =>
      obtain ⟨hreturned, hdrop⟩ := step_complete_eq_some.mp hstep
      exact h.dropGuard hreturned hdrop
  | timeout i =>
      obtain ⟨_, _, _, hdrop⟩ := step_timeout_eq_some.mp hstep
      exact h.dropGuard hevent hdrop

/-- Calls that have not begun have no threads. -/
theorem covered_start (module : Module) (kinds : List CallKind) (newModules : List Module) :
    Covered (Machine.start module kinds newModules) := by
  induction kinds with
  | nil => exact .nil
  | cons kind kinds ih => exact .cons (by simp [Covers]) ih

/-- Running executions are covered by guards, and guards are counted. -/
theorem Covered.running_le {machine : Machine Module} (h : Covered machine)
    (hcounted : Drain.Counted machine.system) :
    machine.runningExecutions ≤ machine.system.slot.activeCalls := by
  rw [hcounted]
  refine Processes.countP_le_countP_of_forall₂ h.flip fun {execution caller} hcovers hphase => ?_
  have hholding : caller = .holding := hcovers (.inr (by simpa using hphase))
  rw [hholding]
  rfl

/-- In every run in which no timeout fires before its execution has returned, `active_calls` is
at least the number of running executions, so a drain that reads zero has none left. -/
theorem active_calls_cover_executions (module : Module) (kinds : List CallKind)
    (newModules : List Module) (events : List Event) {machine : Machine Module}
    (hrun : run (restrict step TimeoutAfterReturn)
      (Machine.start module kinds newModules) events = some machine) :
    machine.runningExecutions ≤ machine.system.slot.activeCalls ∧
      (machine.system.slot.activeCalls = 0 → machine.runningExecutions = 0) := by
  have hle := (run_restrict_invariant Covered.step (covered_start module kinds newModules)
    hrun).running_le (run_counted (run_of_run_restrict hrun))
  exact ⟨hle, fun hzero => Nat.le_zero.mp (hzero ▸ hle)⟩

/-- A tool call and an event dispatch run at once while a reload waits for them. -/
theorem active_calls_cover_two_executions :
    ∃ machine : Machine String, machine.runningExecutions = 2 ∧
      machine.runningExecutions ≤ machine.system.slot.activeCalls ∧
      (machine.system.slot.activeCalls = 0 → machine.runningExecutions = 0) :=
  ⟨Machine.mk
      { slot := { state := .draining, activeCalls := 2, module := "v1" }
        callers := [.holding, .holding]
        reloads := [⟨.draining, "v2"⟩]
        unload := .pending }
      [⟨.invoke, .running⟩, ⟨.event, .running⟩], by decide,
    active_calls_cover_executions "v1" [.invoke, .event] ["v2"]
      [.slot (.caller 0), .slot (.caller 0), .slot (.caller 0), .spawn 0,
        .slot (.caller 1), .slot (.caller 1), .begin 0, .slot (.caller 1), .spawn 1, .begin 1,
        .slot (.reload 0), .slot (.reload 0)] (by decide)⟩

/-- A tool call times out while its thread runs the plugin: the counter is back to zero, and a
drain that starts now sees no call in flight. -/
theorem timed_out_execution_uncounted :
    ¬ ∀ (module : String) (kinds : List CallKind) (newModules : List String)
        (events : List Event) (machine : Machine String),
      run step (Machine.start module kinds newModules) events = some machine →
      machine.runningExecutions ≤ machine.system.slot.activeCalls := by
  intro h
  have hle := h "v1" [.invoke] ["v2"]
    [.slot (.caller 0), .slot (.caller 0), .slot (.caller 0), .spawn 0, .begin 0, .timeout 0,
      .slot (.reload 0), .slot (.reload 0)]
    { system :=
        { slot := { state := .draining, activeCalls := 0, module := "v1" }
          callers := [.idle]
          reloads := [⟨.drained, "v2"⟩]
          unload := .pending }
      executions := [⟨.invoke, .running⟩] } (by decide)
  exact absurd hle (by decide)

end CorvidNano.Host.Executions
