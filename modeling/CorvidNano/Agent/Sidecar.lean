import CorvidNano.Library.Backoff
import CorvidNano.Library.Runs

/-!
# The supervisor of the plugin host

The task of `spawn_sidecar` in `sidecar.rs`: it spawns the plugin host, waits until it exits, and
spawns it again after a delay. The delay doubles up to thirty seconds, but every spawn that succeeds
starts it over, whether the child comes up or crashes at once. `backs_off_iff` says in which runs
the delays are the documented ones.
-/

namespace CorvidNano.Agent.Sidecar

open Backoff

/-- How a child ends: the result of `child.wait()`. -/
inductive Exit where
  | success
  | failure (code : Option Int)
  | waitFailed (error : String)

/-- A round of the loop: no child was spawned, or a child exited that was up before or not. -/
inductive Round where
  | failed
  | exited (wasUp : Bool)
  deriving DecidableEq

/-- A round and the delay after it, in seconds. -/
structure Restart where
  round : Round
  delay : Nat

/-- Where the supervisor is in its loop. -/
inductive Phase where
  | spawning
  | running
  | waiting (round : Round)
  | stopped

/-- The variable `backoff` in seconds, and the delays so far. -/
structure Supervisor where
  phase : Phase
  backoff : Nat
  log : List Restart

/-- What the supervisor meets. The supervisor does not learn whether a child was up. -/
inductive Event where
  | spawned
  | spawnFailed (error : String)
  | exited (status : Exit) (wasUp : Bool)
  | slept
  | shutdown

/-- `max_backoff`. -/
def maxBackoff : Nat := 30

/-- The supervisor at its start. -/
def Supervisor.start : Supervisor where
  phase := .spawning
  backoff := 1
  log := []

/-- One step of the loop. -/
def step (supervisor : Supervisor) (event : Event) : Option Supervisor :=
  match supervisor.phase, event with
  -- Reset backoff on successful spawn.
  | .spawning, .spawned => some { supervisor with phase := .running, backoff := 1 }
  | .spawning, .spawnFailed _ => some { supervisor with phase := .waiting .failed }
  | .running, .exited _ wasUp => some { supervisor with phase := .waiting (.exited wasUp) }
  | .running, .shutdown => some { supervisor with phase := .stopped }
  | .waiting round, .slept =>
      some
        { phase := .spawning
          backoff := min (supervisor.backoff * 2) maxBackoff
          log := supervisor.log ++ [⟨round, supervisor.backoff⟩] }
  | .waiting _, .shutdown => some { supervisor with phase := .stopped }
  | _, _ => none

/-- The delays are the documented ones: doubling up to thirty seconds when every child crashes at
once, and back to one second only after a child that was up. -/
structure BacksOff (log : List Restart) : Prop where
  doubles : (∀ restart ∈ log, restart.round = .exited false) →
    log.map Restart.delay = (List.range log.length).map fun n => min (2 ^ n) 30
  resets : ∀ restart ∈ log.tail, restart.delay = 1 → restart.round = .exited true

/-- The documented delays. -/
def policy : Policy where
  first := 1
  limit := maxBackoff
  first_pos := Nat.one_pos
  first_lt := by decide

/-- The rounds that start the delays over: those with a child. -/
def Round.spawned : Round → Bool
  | .failed => false
  | .exited _ => true

/-- The rounds that should: those with a child that was up. -/
def Round.wasUp : Round → Bool
  | .failed => false
  | .exited wasUp => wasUp

/-- The rounds of a log. -/
def rounds (log : List Restart) : List Round := log.map Restart.round

/-- The backoff in each phase, by the rounds so far. -/
def dueBackoff (before : List Round) : Phase → Nat
  | .spawning => policy.due Round.spawned before
  | .running => policy.first
  | .waiting round => policy.delayOf Round.spawned (policy.due Round.spawned before) round
  | .stopped => 0

/-- The delays so far and the backoff are those of a policy that every spawn starts over. -/
structure Follows (supervisor : Supervisor) : Prop where
  delays : supervisor.log.map Restart.delay = policy.delays Round.spawned (rounds supervisor.log)
  backoff : supervisor.phase = .stopped ∨
    supervisor.backoff = dueBackoff (rounds supervisor.log) supervisor.phase

/-- Each step keeps to this policy. -/
theorem follows_step {supervisor next : Supervisor} {event : Event} (h : Follows supervisor)
    (hstep : step supervisor event = some next) : Follows next := by
  obtain ⟨phase, backoff, log⟩ := supervisor
  obtain ⟨hdelays, hbackoff⟩ := h
  cases phase with
  | spawning =>
      cases event with
      | spawned =>
          cases hstep
          exact ⟨hdelays, .inr rfl⟩
      | spawnFailed error =>
          cases hstep
          exact ⟨hdelays, .inr (hbackoff.resolve_left fun h => nomatch h)⟩
      | _ => cases hstep
  | running =>
      cases event with
      | exited status wasUp =>
          cases hstep
          exact ⟨hdelays, .inr (hbackoff.resolve_left fun h => nomatch h)⟩
      | shutdown =>
          cases hstep
          exact ⟨hdelays, .inl rfl⟩
      | _ => cases hstep
  | waiting round =>
      have hdue : backoff = policy.delayOf Round.spawned
          (policy.due Round.spawned (rounds log)) round :=
        hbackoff.resolve_left fun h => nomatch h
      cases event with
      | slept =>
          cases hstep
          have hrounds : rounds (log ++ [⟨round, backoff⟩]) = rounds log ++ [round] :=
            List.map_append
          constructor
          case delays =>
            show List.map Restart.delay (log ++ [⟨round, backoff⟩]) = _
            rw [List.map_append, hrounds, Policy.delays_concat, hdelays, ← hdue]
            rfl
          case backoff =>
            right
            show min (backoff * 2) maxBackoff = policy.due Round.spawned (rounds _)
            rw [hrounds, Policy.due_concat, ← hdue]
            rfl
      | shutdown =>
          cases hstep
          exact ⟨hdelays, .inl rfl⟩
      | _ => cases hstep
  | stopped => cases event <;> cases hstep

/-- Every run keeps to this policy. -/
theorem follows_run {events : List Event} {final : Supervisor}
    (h : Runs.run step .start events = some final) : Follows final := by
  have hstart : Follows .start := ⟨rfl, .inr rfl⟩
  exact Runs.run_invariant follows_step hstart h

/-- The delays of a run with the rounds they come after. -/
theorem zip_delays {supervisor : Supervisor} (h : Follows supervisor) :
    (rounds supervisor.log).zip (policy.delays Round.spawned (rounds supervisor.log)) =
      supervisor.log.map fun restart => (restart.round, restart.delay) := by
  rw [← h.delays, rounds, List.zip_map']

/-- In a run the delays are the documented ones if and only if every spawn but the first fails, or
its child is up before it exits. -/
theorem backs_off_iff {events : List Event} {final : Supervisor}
    (h : Runs.run step .start events = some final) :
    BacksOff final.log ↔ ∀ restart ∈ final.log.tail, restart.round ≠ .exited false := by
  have hfollows := follows_run h
  have hfirst : ∀ restart ∈ final.log.tail, restart.delay = 1 ↔ restart.round.spawned = true := by
    intro restart hrestart
    have hall : ∀ pair ∈
        ((rounds final.log).zip (policy.delays Round.spawned (rounds final.log))).tail,
        pair.2 = policy.first ↔ pair.1.spawned = true :=
      Policy.first_iff_resets (rounds final.log)
    rw [zip_delays hfollows, ← List.map_tail] at hall
    exact hall _ (List.mem_map.mpr ⟨restart, hrestart, rfl⟩)
  constructor
  · intro hbacks restart hrestart hcrashed
    have hone := (hfirst restart hrestart).mpr (by rw [hcrashed]; rfl)
    have hup := hbacks.resets restart hrestart hone
    rw [hcrashed] at hup
    cases hup
  · intro hrounds
    constructor
    case doubles =>
      intro hcrashed
      have hagree : ∀ round ∈ (rounds final.log).tail, round.spawned = round.wasUp := by
        intro round hround
        rw [rounds, ← List.map_tail] at hround
        obtain ⟨restart, hrestart, rfl⟩ := List.mem_map.mp hround
        exact absurd (hcrashed restart (List.mem_of_mem_tail hrestart)) (hrounds restart hrestart)
      have hnever : ∀ round ∈ rounds final.log, round.wasUp = false := by
        intro round hround
        obtain ⟨restart, hrestart, rfl⟩ := List.mem_map.mp hround
        rw [hcrashed restart hrestart]
        rfl
      rw [hfollows.delays, Policy.delays_congr hagree, Policy.delays_of_never hnever, rounds,
        List.length_map]
      simp only [policy, maxBackoff, Nat.mul_one]
    case resets =>
      intro restart hrestart hone
      have hspawned := (hfirst restart hrestart).mp hone
      cases hround : restart.round with
      | failed =>
          rw [hround] at hspawned
          cases hspawned
      | exited wasUp =>
          cases wasUp with
          | false => exact absurd hround (hrounds restart hrestart)
          | true => rfl

/-- A spawn that fails, and then a child that is up. -/
def failedThenUp : List Event :=
  [.spawnFailed "No such file or directory (os error 2)", .slept,
    .spawned, .exited .success true, .slept]

/-- The supervisor after that. -/
def afterFailedThenUp : Supervisor where
  phase := .spawning
  backoff := 2
  log := [⟨.failed, 1⟩, ⟨.exited true, 1⟩]

/-- The delays of this run are the documented ones. -/
theorem backs_off_after_up : BacksOff afterFailedThenUp.log := by
  have hrun : Runs.run step .start failedThenUp = some afterFailedThenUp := rfl
  exact (backs_off_iff hrun).mpr (by decide)

/-- Two children that crash at once: both delays are one second. -/
theorem crashes_not_doubled :
    ∃ final, Runs.run step .start [.spawned, .exited (.failure (some 1)) false, .slept,
        .spawned, .exited (.failure (some 1)) false, .slept] = some final ∧
      final.log.map Restart.delay = [1, 1] ∧ ¬ BacksOff final.log := by
  refine ⟨_, rfl, rfl, fun h => ?_⟩
  exact absurd (h.doubles (by decide)) (by decide)

end CorvidNano.Agent.Sidecar
