import CorvidNano.Server.RustBridge

/-!
# Connections of the TypeScript bridge

The handlers of all sockets write the same fields, and only `closed` tells them that the bridge
has moved on, which a new `connect` resets. `single_connection` holds for runs in which a
connection is only made while no socket is in use, and in which no late `close` event hits another
connection.
-/

namespace CorvidNano.Server.Connections

open PendingCalls RustBridge Runs Sockets Tools

variable {Schema Value : Type} {config : Config Schema Value}
  {bridge next : PluginBridge Schema Value}

/-- A connection is made while no socket is in use, and a `close` event belongs to the current
connection if there is one. -/
def Permitted (bridge : PluginBridge Schema Value) : Event → Prop
  | .connect | .reconnect => bridge.link.Idle
  | .closed i => bridge.link.socket = none ∨ bridge.link.socket = some i
  | _ => True

instance (bridge : PluginBridge Schema Value) (event : Event) :
    Decidable (Permitted bridge event) :=
  match event with
  | .connect | .reconnect => inferInstanceAs (Decidable bridge.link.Idle)
  | .closed i =>
      inferInstanceAs (Decidable (bridge.link.socket = none ∨ bridge.link.socket = some i))
  | .disconnect | .refreshTools | .call | .task | .timeout _ | .connected _ | .errored _
  | .ended _ | .data _ _ => inferInstanceAs (Decidable True)

/-! ## One connection -/

/-- Every event that is permitted keeps one socket in use. -/
theorem single_step {event : Event} (h : Single bridge.link) (hpermitted : Permitted bridge event)
    (hstep : step config bridge event = some next) : Single next.link := by
  rw [link_step hstep]
  cases event with
  | connect =>
      exact single_do_connect ⟨h.created, h.live_unique, h.open_current⟩ hpermitted
  | reconnect =>
      exact single_do_connect ⟨h.created, h.live_unique, h.open_current⟩ hpermitted
  | disconnect => exact single_disconnect h
  | refreshTools | call | task | timeout => exact h
  | connected i =>
      have henabled := (step_eq_some.mp hstep).1
      simp only [PluginBridge.enabled, Bool.and_eq_true, decide_eq_true_eq] at henabled
      exact single_handle_connect h henabled.2
  | errored i => exact single_handle_error h i
  | ended i => exact single_destroy h i
  | data i chunk =>
      unfold PluginBridge.linkAfter
      dsimp only
      split
      · exact single_destroy_socket h
      · exact h
  | closed i => exact single_handle_close h hpermitted

/-- The event belongs to the socket, and the bridge handles it. -/
def OfSocket (i : Nat) : Event → Prop
  | .errored j | .data j _ | .closed j => j = i
  | _ => False

/-- In every run in which a connection is only made while no socket is in use, and in which a
`close` event belongs to the current connection if there is one, at most one socket is open or
being opened, an open one is `this.socket`, and the events of another socket change nothing of the
current connection. -/
theorem single_connection {events : List Event}
    (hrun : run (restrict (step config) Permitted) .new events = some bridge) :
    (∀ i j, (bridge.link.phase i).live = true → (bridge.link.phase j).live = true → i = j) ∧
      (∀ i, bridge.link.phase i = .opened → bridge.link.socket = some i) ∧
      ∀ current i event next, bridge.link.socket = some current → i ≠ current → OfSocket i event →
        restrict (step config) Permitted bridge event = some next →
          next.buffer = bridge.buffer ∧ next.calls = bridge.calls ∧ next.tools = bridge.tools ∧
            next.link.socket = bridge.link.socket := by
  have hsingle : Single bridge.link :=
    @run_restrict_invariant _ _ _ _ _ (fun bridge => Single bridge.link) single_step _ _ _
      single_start hrun
  refine ⟨hsingle.live_unique, hsingle.open_current, ?_⟩
  intro current i event next hcurrent hother hsocket hnext
  obtain ⟨hpermitted, hstep⟩ := restrict_eq_some.mp hnext
  obtain ⟨henabled, rfl⟩ := step_eq_some.mp hstep
  cases event with
  | errored j => exact ⟨rfl, rfl, rfl, socket_handle_error j⟩
  | data j chunk =>
      -- Only an open socket delivers data, and that one is the current one.
      obtain rfl := hsocket
      simp only [PluginBridge.enabled, Bool.and_eq_true, decide_eq_true_eq] at henabled
      have hopen := hsingle.open_current j henabled.2
      rw [hcurrent] at hopen
      exact absurd (Option.some.inj hopen).symm hother
  | closed j =>
      obtain rfl := hsocket
      rcases hpermitted with hnone | hsome
      · rw [hcurrent] at hnone
        cases hnone
      · rw [hcurrent] at hsome
        exact absurd (Option.some.inj hsome).symm hother
  | connect | disconnect | refreshTools | call | task | reconnect | timeout | connected | ended =>
      cases hsocket

/-- A connection that is closed before the next one is made. -/
theorem sequential_connections_single :
    ∃ bridge, run (restrict (step silentConfig) Permitted) .new
        [.connect, .connected 0, .disconnect, .closed 0, .connect, .connected 1] = some bridge ∧
      bridge.link.socket = some 1 ∧
      ∀ i, bridge.link.phase i = .opened → bridge.link.socket = some i := by
  obtain ⟨bridge, hrun, hsocket⟩ : ∃ bridge, run (restrict (step silentConfig) Permitted) .new
        [.connect, .connected 0, .disconnect, .closed 0, .connect, .connected 1] = some bridge ∧
      bridge.link.socket = some 1 := ⟨_, rfl, rfl⟩
  exact ⟨bridge, hrun, hsocket, (single_connection hrun).2.1⟩

/-- A `close` event that comes after the next `connect` makes a second connection: it schedules
one, since `connect` has reset `closed`. -/
theorem late_close_two_sockets :
    ∃ bridge, run (step silentConfig) .new
        [.connect, .connected 0, .disconnect, .connect, .closed 0, .connected 1, .reconnect] =
          some bridge ∧
      bridge.link.phase 1 = .opened ∧ bridge.link.phase 2 = .connecting :=
  ⟨_, rfl, rfl, rfl⟩

end CorvidNano.Server.Connections
