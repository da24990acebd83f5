import Mathlib.Data.List.Basic
import Mathlib.Data.List.Infix

/-!
# Runs of a partial transition function

A machine is a function `step : State → Event → Option State`. The event carries every
choice that the environment or the scheduler makes, so a run is a list of events.
`run_invariant` is the induction over a run, `Throughout` speaks of the states that a run passes
through, `restrict` removes the steps that a condition
on the state and the event excludes, and `run_simulation` carries the runs of a detailed
machine to a more abstract one.
-/

namespace CorvidNano.Runs

variable {State Event : Type*} {step : State → Event → Option State}

/-- The state after the events in order, or `none` as soon as one of them is not enabled. -/
def run (step : State → Event → Option State) : State → List Event → Option State
  | state, [] => some state
  | state, event :: rest => (step state event).bind fun next => run step next rest

@[simp] theorem run_nil (state : State) : run step state [] = some state := rfl

/-- A run that starts with an event takes that step and continues from its result. -/
theorem run_cons_eq_some {state final : State} {event : Event} {rest : List Event} :
    run step state (event :: rest) = some final ↔
      ∃ next, step state event = some next ∧ run step next rest = some final := by
  simp [run, Option.bind_eq_some_iff]

/-- Running a concatenation runs the first part and then the second. -/
theorem run_append (state : State) (first second : List Event) :
    run step state (first ++ second) =
      (run step state first).bind fun middle => run step middle second := by
  induction first generalizing state with
  | nil => rfl
  | cons event rest ih =>
      cases h : step state event with
      | none => simp [run, h]
      | some next => simp [run, h, ih]

/-- What the initial state satisfies and every step preserves holds after every run. -/
theorem run_invariant {Inv : State → Prop}
    (hstep : ∀ {state event next}, Inv state → step state event = some next → Inv next)
    {start final : State} {events : List Event} (hstart : Inv start)
    (hrun : run step start events = some final) : Inv final := by
  induction events generalizing start with
  | nil =>
      cases hrun
      exact hstart
  | cons event rest ih =>
      obtain ⟨next, hnext, hrest⟩ := run_cons_eq_some.mp hrun
      exact ih (hstep hstart hnext) hrest

/-- The invariant rule for a run whose events are known. -/
theorem run_events_invariant {Inv : State → Prop} {events : List Event}
    (hstep : ∀ {state event next}, event ∈ events → Inv state → step state event = some next →
      Inv next)
    {start final : State} (hstart : Inv start) (hrun : run step start events = some final) :
    Inv final := by
  induction events generalizing start with
  | nil =>
      cases hrun
      exact hstart
  | cons event rest ih =>
      obtain ⟨next, hnext, hrest⟩ := run_cons_eq_some.mp hrun
      exact ih (fun hmem => hstep (List.mem_cons_of_mem _ hmem))
        (hstep (List.mem_cons_self ..) hstart hnext) hrest

/-- The invariant rule for a property of the state and the events so far. -/
theorem run_history_invariant {Inv : List Event → State → Prop}
    (hstep : ∀ {past state event next}, Inv past state → step state event = some next →
      Inv (past ++ [event]) next)
    {start final : State} {past events : List Event} (hstart : Inv past start)
    (hrun : run step start events = some final) : Inv (past ++ events) final := by
  induction events generalizing past start with
  | nil =>
      cases hrun
      simpa using hstart
  | cons event rest ih =>
      obtain ⟨next, hnext, hrest⟩ := run_cons_eq_some.mp hrun
      simpa using ih (hstep hstart hnext) hrest

/-- Every state that the run passes through has the property, the first and the last included. -/
def Throughout (step : State → Event → Option State) (P : State → Prop) (start : State)
    (events : List Event) : Prop :=
  ∀ passed, passed <+: events → ∀ state, run step start passed = some state → P state

theorem throughout_nil {P : State → Prop} {start : State} :
    Throughout step P start [] ↔ P start := by
  constructor
  · intro h
    exact h [] (List.prefix_refl _) start rfl
  · intro h passed hpassed state hstate
    rw [List.prefix_nil.mp hpassed] at hstate
    cases hstate
    exact h

/-- The states of a run are its first one and those of the rest. -/
theorem throughout_cons {P : State → Prop} {start next : State} {event : Event}
    {rest : List Event} (hnext : step start event = some next) :
    Throughout step P start (event :: rest) ↔ P start ∧ Throughout step P next rest := by
  constructor
  · intro h
    refine ⟨h [] (List.nil_prefix) start rfl, fun passed hpassed state hstate => ?_⟩
    exact h (event :: passed) (List.cons_prefix_cons.mpr ⟨rfl, hpassed⟩) state
      (run_cons_eq_some.mpr ⟨next, hnext, hstate⟩)
  · intro ⟨hstart, hrest⟩ passed hpassed state hstate
    cases passed with
    | nil =>
        cases hstate
        exact hstart
    | cons first passed =>
        obtain ⟨rfl, hinit⟩ := List.cons_prefix_cons.mp hpassed
        obtain ⟨other, hother, hstate⟩ := run_cons_eq_some.mp hstate
        rw [hnext] at hother
        cases hother
        exact hrest passed hinit state hstate

/-- The machine without the steps that `allowed` excludes. -/
def restrict (step : State → Event → Option State) (allowed : State → Event → Prop)
    [∀ state event, Decidable (allowed state event)] (state : State) (event : Event) :
    Option State :=
  if allowed state event then step state event else none

section Restrict

variable {allowed : State → Event → Prop} [∀ state event, Decidable (allowed state event)]

/-- A restricted step is a step of the machine that the condition admits. -/
theorem restrict_eq_some {state next : State} {event : Event} :
    restrict step allowed state event = some next ↔
      allowed state event ∧ step state event = some next := by
  simp [restrict]

/-- The invariant rule for runs whose steps all meet a condition. -/
theorem run_restrict_invariant {Inv : State → Prop}
    (hstep : ∀ {state event next}, Inv state → allowed state event →
      step state event = some next → Inv next)
    {start final : State} {events : List Event} (hstart : Inv start)
    (hrun : run (restrict step allowed) start events = some final) : Inv final :=
  run_invariant
    (fun hinv h => hstep hinv (restrict_eq_some.mp h).1 (restrict_eq_some.mp h).2) hstart hrun

/-- Forgetting the condition gives a run of the machine. -/
theorem run_of_run_restrict {start final : State} {events : List Event}
    (hrun : run (restrict step allowed) start events = some final) :
    run step start events = some final := by
  induction events generalizing start with
  | nil => exact hrun
  | cons event rest ih =>
      obtain ⟨next, hnext, hrest⟩ := run_cons_eq_some.mp hrun
      exact run_cons_eq_some.mpr ⟨next, (restrict_eq_some.mp hnext).2, ih hrest⟩

/-- If a step from a good state leads to a good one exactly if the condition admits it, then a run
passes through good states only, exactly if all its steps meet the condition. -/
theorem throughout_iff_run_restrict {Inv Good : State → Prop}
    (hinv : ∀ {state event next}, Inv state → step state event = some next → Inv next)
    (hgood : ∀ {state event next}, Inv state → Good state → step state event = some next →
      (Good next ↔ allowed state event))
    {start final : State} {events : List Event} (hstart : Inv start) (hfirst : Good start)
    (hrun : run step start events = some final) :
    Throughout step Good start events ↔
      run (restrict step allowed) start events = some final := by
  induction events generalizing start with
  | nil =>
      cases hrun
      exact ⟨fun _ => rfl, fun _ => throughout_nil.mpr hfirst⟩
  | cons event rest ih =>
      obtain ⟨next, hnext, hrest⟩ := run_cons_eq_some.mp hrun
      have hallowed := hgood hstart hfirst hnext
      rw [throughout_cons hnext]
      constructor
      · intro ⟨_, hthrough⟩
        have hsecond : Good next := hthrough [] List.nil_prefix next rfl
        refine run_cons_eq_some.mpr ⟨next, restrict_eq_some.mpr ⟨hallowed.mp hsecond, hnext⟩, ?_⟩
        exact (ih (hinv hstart hnext) hsecond hrest).mp hthrough
      · intro hrestrict
        obtain ⟨other, hother, hrest'⟩ := run_cons_eq_some.mp hrestrict
        obtain ⟨hevent, hsame⟩ := restrict_eq_some.mp hother
        rw [hnext] at hsame
        cases hsame
        exact ⟨hfirst, (ih (hinv hstart hnext) (hallowed.mpr hevent) hrest).mpr hrest'⟩

end Restrict

section Simulation

variable {Abstract AbstractEvent : Type*} {abstractStep : Abstract → AbstractEvent → Option Abstract}

/-- If every step of the detailed machine is a run of the abstract one under `project`, then
every run is. -/
theorem run_simulation (project : State → Abstract) (events : Event → List AbstractEvent)
    (hstep : ∀ {state event next}, step state event = some next →
      run abstractStep (project state) (events event) = some (project next))
    {start final : State} {trace : List Event} (hrun : run step start trace = some final) :
    run abstractStep (project start) (trace.flatMap events) = some (project final) := by
  induction trace generalizing start with
  | nil =>
      cases hrun
      rfl
  | cons event rest ih =>
      obtain ⟨next, hnext, hrest⟩ := run_cons_eq_some.mp hrun
      simp [run_append, hstep hnext, ih hrest]

end Simulation

end CorvidNano.Runs
