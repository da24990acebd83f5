import CorvidNano.Server.Microtasks

/-!
# The end of a connection of the TypeScript bridge

`disconnect` drops `this.socket`, clears the timer of the next connection and removes the tools.
`finished_step` says that nothing but `connect` brings back a bridge that has no socket left in
use: tools that a continuation registers late are removed by the `close` event that is still to
come. `disconnect_final_iff` says when `disconnect` leads to such a bridge.
-/

namespace CorvidNano.Server.Disconnect

open Microtasks PendingCalls RustBridge Runs Sockets Tools

variable {Schema Value : Type} {config : Config Schema Value}
  {bridge next before after : PluginBridge Schema Value}

/-- The bridge has no open socket, no scheduled connection and no tool in the registry. -/
structure Gone (bridge : PluginBridge Schema Value) : Prop where
  socket : ∀ i, bridge.link.phase i ≠ .opened
  reconnectTimer : bridge.link.reconnectTimer = false
  registry : ∀ name, bridge.tools.registry name = none

/-- All callbacks that were pending have run: those of promises, of calls that time out, and of
sockets that connect or close. -/
structure Settled (bridge : PluginBridge Schema Value) : Prop where
  tasks : bridge.tasks = []
  timers : bridge.calls.timers = []
  socket : ∀ i, bridge.link.phase i ≠ .connecting ∧ bridge.link.phase i ≠ .destroyed

/-- Every socket that is open or being opened is `this.socket`. -/
def Quiet (bridge : PluginBridge Schema Value) : Prop :=
  ∀ i, (bridge.link.phase i).live = true → bridge.link.socket = some i

/-! ## Where continuations come from -/

/-- How the phase of a socket changes after it was created. -/
inductive Change : Phase → Phase → Prop where
  | same (phase : Phase) : Change phase phase
  | connect : Change .connecting .opened
  | destroy {phase : Phase} (h : phase.live = true) : Change phase .destroyed
  | close : Change .destroyed .closed

/-- A step creates the next socket, or changes a phase. -/
theorem phase_step {event : Event} (hstep : step config bridge event = some next) (i : Nat) :
    ((event = .connect ∨ event = .reconnect) ∧ i = bridge.link.nextSocket) ∨
      Change (bridge.link.phase i) (next.link.phase i) := by
  have henabled := (step_eq_some.mp hstep).1
  have hdestroy : ∀ {P : Prop} [Decidable P], (P → (bridge.link.phase i).live = true) →
      Change (bridge.link.phase i) (if P then .destroyed else bridge.link.phase i) := by
    intro P _ hlive
    split
    · rename_i h
      exact .destroy (hlive h)
    · exact .same _
  have hcreate : ∀ {link : Link}, link.phase = bridge.link.phase →
      link.nextSocket = bridge.link.nextSocket → i ≠ bridge.link.nextSocket →
        Change (bridge.link.phase i) (link.doConnect.phase i) := by
    intro link hphase hnext hne
    rw [phase_do_connect, hnext, if_neg hne, hphase]
    exact .same _
  rw [link_step hstep]
  cases event with
  | connect =>
      by_cases hi : i = bridge.link.nextSocket
      · exact .inl ⟨.inl rfl, hi⟩
      · exact .inr (hcreate rfl rfl hi)
  | reconnect =>
      by_cases hi : i = bridge.link.nextSocket
      · exact .inl ⟨.inr rfl, hi⟩
      · exact .inr (hcreate rfl rfl hi)
  | disconnect =>
      right
      rw [PluginBridge.linkAfter, phase_disconnect]
      exact hdestroy And.right
  | refreshTools | call | task | timeout => exact .inr (.same _)
  | connected j =>
      simp only [PluginBridge.enabled, Bool.and_eq_true, decide_eq_true_eq] at henabled
      right
      rw [PluginBridge.linkAfter, phase_handle_connect]
      split
      · rename_i heq
        rw [heq, henabled.2]
        exact .connect
      · exact .same _
  | errored j =>
      right
      rw [PluginBridge.linkAfter, phase_handle_error]
      exact hdestroy fun h => h.1 ▸ h.2
  | ended j =>
      right
      rw [PluginBridge.linkAfter, phase_destroy]
      exact hdestroy fun h => h.1 ▸ h.2
  | data j chunk =>
      right
      unfold PluginBridge.linkAfter
      dsimp only
      split
      · rw [phase_destroy_socket]
        exact hdestroy And.right
      · exact .same _
  | closed j =>
      simp only [PluginBridge.enabled, Bool.and_eq_true, decide_eq_true_eq] at henabled
      right
      rw [PluginBridge.linkAfter, phase_handle_close]
      split
      · rename_i heq
        rw [heq, henabled.2]
        exact .close
      · exact .same _

/-- The number of the next socket grows. -/
theorem next_socket_le_step {event : Event} (hstep : step config bridge event = some next) :
    bridge.link.nextSocket ≤ next.link.nextSocket := by
  rw [link_step hstep]
  cases event with
  | connect | reconnect => exact Nat.le_succ _
  | disconnect => exact Nat.le_of_eq next_socket_disconnect.symm
  | refreshTools | call | task | timeout | connected => exact Nat.le_refl _
  | errored j => exact Nat.le_of_eq (next_socket_handle_error j).symm
  | ended j => exact Nat.le_of_eq (next_socket_destroy j).symm
  | data j chunk =>
      unfold PluginBridge.linkAfter
      dsimp only
      split
      · exact Nat.le_of_eq next_socket_destroy_socket.symm
      · exact Nat.le_refl _
  | closed j => exact Nat.le_of_eq (next_socket_handle_close j).symm

/-- The next socket is new, and continuations are due only after a socket has delivered their
responses, and before its `close` event. -/
structure Sourced (bridge : PluginBridge Schema Value) : Prop where
  used : ∀ i, bridge.link.phase i ≠ .absent → i < bridge.link.nextSocket
  delivered : bridge.tasks ≠ [] →
    ∃ i, bridge.link.phase i = .opened ∨ bridge.link.phase i = .destroyed

theorem sourced_new : Sourced (.new : PluginBridge Schema Value) where
  used _ h := absurd rfl h
  delivered h := absurd rfl h

/-- Every step keeps the next socket new. -/
theorem used_step {event : Event} (h : Sourced bridge)
    (hstep : step config bridge event = some next) {i : Nat}
    (hi : next.link.phase i ≠ .absent) : i < next.link.nextSocket := by
  rcases phase_step hstep i with ⟨rfl | rfl, rfl⟩ | hchange
  · rw [link_step hstep]
    exact Nat.lt_succ_self _
  · rw [link_step hstep]
    exact Nat.lt_succ_self _
  · refine Nat.lt_of_lt_of_le (h.used i fun habsent => ?_) (next_socket_le_step hstep)
    rw [habsent] at hchange
    generalize next.link.phase i = phase at hchange hi
    cases hchange with
    | same => exact hi rfl
    | destroy hlive => cases hlive

/-- A socket that has delivered a response is open or destroyed until it is closed. -/
theorem delivered_step {event : Event} (h : Sourced bridge)
    (hstep : step config bridge event = some next) (htasks : next.tasks ≠ []) :
    ∃ i, next.link.phase i = .opened ∨ next.link.phase i = .destroyed := by
  have henabled := (step_eq_some.mp hstep).1
  -- Only users and other continuations come between a response and its continuation.
  have hold : bridge.tasks ≠ [] → event = .connect ∨ event = .disconnect ∨
      next.link.phase = bridge.link.phase →
        ∃ i, next.link.phase i = .opened ∨ next.link.phase i = .destroyed := by
    intro hbefore hevent
    obtain ⟨i, hi⟩ := h.delivered hbefore
    refine ⟨i, ?_⟩
    rcases hevent with rfl | rfl | hsame
    · have hlt : i < bridge.link.nextSocket := h.used i fun habsent => by
        rw [habsent] at hi
        rcases hi with hi | hi <;> cases hi
      rw [link_step hstep]
      show (Link.doConnect _).phase i = _ ∨ (Link.doConnect _).phase i = _
      rw [phase_do_connect, if_neg (Nat.ne_of_lt hlt)]
      exact hi
    · rw [link_step hstep, PluginBridge.linkAfter, phase_disconnect]
      split
      · exact .inr rfl
      · exact hi
    · rw [hsame]
      exact hi
  cases event with
  | data i chunk =>
      obtain ⟨⟨_, hopen⟩, _⟩ := step_data_eq_some.mp hstep
      refine ⟨i, ?_⟩
      rw [link_step hstep, PluginBridge.linkAfter]
      split
      · rw [phase_destroy_socket]
        split
        · exact .inr rfl
        · exact .inl hopen
      · exact .inl hopen
  | task =>
      obtain ⟨task, tasks, htasks, _⟩ := step_task_eq_some.mp hstep
      exact hold (by simp [htasks]) (.inr (.inr (by rw [link_step hstep]; rfl)))
  | connect =>
      rw [tasks_step (by simp) (by simp) hstep] at htasks
      exact hold htasks (.inl rfl)
  | disconnect =>
      rw [tasks_step (by simp) (by simp) hstep] at htasks
      exact hold htasks (.inr (.inl rfl))
  | refreshTools | call =>
      rw [tasks_step (by simp) (by simp) hstep] at htasks
      exact hold htasks (.inr (.inr (by rw [link_step hstep]; rfl)))
  | reconnect | timeout | connected | errored | ended | closed =>
      rw [tasks_step (by simp) (by simp) hstep] at htasks
      simp [PluginBridge.enabled, htasks] at henabled

theorem sourced_step {event : Event} (h : Sourced bridge)
    (hstep : step config bridge event = some next) : Sourced next :=
  ⟨fun _ hi => used_step h hstep hi, delivered_step h hstep⟩

theorem sourced_run {events : List Event} (hrun : run (step config) .new events = some bridge) :
    Sourced bridge :=
  run_invariant sourced_step sourced_new hrun

/-! ## Nothing comes back -/

/-- A bridge that was disconnected, with no socket left in use. It has no tools, or a `close`
event is still to come. -/
structure Finished (config : Config Schema Value) (bridge : PluginBridge Schema Value) : Prop where
  closed : bridge.link.closed = true
  socket : bridge.link.socket = none
  idle : ∀ i, (bridge.link.phase i).live = false
  reconnectTimer : bridge.link.reconnectTimer = false
  backed : Backed config bridge.tools
  tools : (∃ i, bridge.link.phase i = .destroyed) ∨
    bridge.tasks = [] ∧ ∀ name, bridge.tools.registry name = none

/-- `disconnect` finishes a bridge that is quiet. -/
theorem finished_disconnect (hquiet : Quiet before) (hsourced : Sourced before)
    (hbacked : Backed config before.tools) (hstep : step config before .disconnect = some after) :
    Finished config after := by
  have htasks := tasks_step (by simp) (by simp) hstep
  have hregistry := registry_end (.inl rfl) hbacked hstep
  have hphase : ∀ i, after.link.phase i =
      if (before.link.phase i).live = true then .destroyed else before.link.phase i := by
    intro i
    rw [link_step hstep, PluginBridge.linkAfter, phase_disconnect]
    exact if_congr ⟨And.right, fun hlive => ⟨hquiet i hlive, hlive⟩⟩ rfl rfl
  refine ⟨?_, ?_, fun i => ?_, ?_, backed_step hbacked hstep, ?_⟩
  · rw [link_step hstep]
    exact closed_destroy_socket
  · rw [link_step hstep]
    rfl
  · rw [hphase]
    split
    · rfl
    · rename_i hdead
      simpa using hdead
  · rw [link_step hstep]
    exact reconnect_timer_destroy_socket
  · by_cases hnil : before.tasks = []
    · exact .inr ⟨htasks.trans hnil, hregistry⟩
    · obtain ⟨i, hi⟩ := hsourced.delivered hnil
      refine .inl ⟨i, ?_⟩
      rw [hphase]
      rcases hi with hi | hi <;> rw [hi] <;> rfl

/-- A call is refused. -/
theorem rpc_finished (h : Finished config bridge) (awaiter : Awaiter) :
    rpc bridge awaiter = bridge := by
  rw [rpc, Link.connected, h.socket]
  rfl

/-- A step that changes neither the sockets nor the continuations, and adds no tools. -/
theorem Finished.of_tools (h : Finished config bridge) (hlink : next.link = bridge.link)
    (htasks : next.tasks = bridge.tasks) (hbacked : Backed config next.tools)
    (htools : (∀ name, bridge.tools.registry name = none) →
      ∀ name, next.tools.registry name = none) : Finished config next where
  closed := hlink ▸ h.closed
  socket := hlink ▸ h.socket
  idle := hlink ▸ h.idle
  reconnectTimer := hlink ▸ h.reconnectTimer
  backed := hbacked
  tools := by
    rw [hlink, htasks]
    exact h.tools.imp_right fun htools' => ⟨htools'.1, htools htools'.2⟩

/-- Nothing but `connect` brings the bridge back. -/
theorem finished_step {event : Event} (h : Finished config bridge) (hevent : event ≠ .connect)
    (hstep : step config bridge event = some next) : Finished config next := by
  have hbacked := backed_step h.backed hstep
  have hlink := link_step hstep
  obtain ⟨henabled, hnext⟩ := step_eq_some.mp hstep
  cases event with
  | connect => exact absurd rfl hevent
  | disconnect =>
      refine h.of_tools ?_ (tasks_step (by simp) (by simp) hstep) hbacked fun _ => ?_
      · rw [hlink]
        exact disconnect_of_closed h.closed h.socket h.reconnectTimer
      · exact registry_end (.inl rfl) h.backed hstep
  | refreshTools =>
      subst hnext
      refine h.of_tools hlink (tasks_step (by simp) (by simp) hstep) hbacked fun hnone name => ?_
      show (RustBridge.refreshTools config bridge).tools.registry name = none
      rw [refresh_tools_eq]
      dsimp only
      split
      · exact registry_unregister_all h.backed.registered name
      · exact hnone name
  | call =>
      obtain rfl : bridge = next := (rpc_finished h .caller).symm.trans hnext
      exact h
  | task =>
      refine ⟨hlink ▸ h.closed, hlink ▸ h.socket, hlink ▸ h.idle, hlink ▸ h.reconnectTimer, hbacked,
        ?_⟩
      rw [hlink]
      obtain ⟨task, tasks, htasks, _⟩ := step_task_eq_some.mp hstep
      exact .inl (h.tools.resolve_right fun hnone => by simp [htasks] at hnone)
  | timeout id =>
      subst hnext
      exact h.of_tools rfl rfl hbacked fun hnone => hnone
  | reconnect => simp [PluginBridge.enabled, h.reconnectTimer] at henabled
  | connected i | ended i | data i =>
      simp only [PluginBridge.enabled, Bool.and_eq_true, decide_eq_true_eq] at henabled
      have hidle := h.idle i
      rw [henabled.2] at hidle
      cases hidle
  | errored i => simp [PluginBridge.enabled, h.idle i] at henabled
  | closed i =>
      simp only [PluginBridge.enabled, Bool.and_eq_true, List.isEmpty_iff] at henabled
      rw [PluginBridge.linkAfter, handle_close_of_closed h.closed] at hlink
      refine ⟨?_, ?_, fun j => ?_, ?_, hbacked, .inr ⟨?_, ?_⟩⟩
      · rw [hlink]
        exact h.closed
      · rw [hlink]
      · rw [hlink]
        dsimp only
        rw [Function.update_apply]
        split
        · rfl
        · exact h.idle j
      · rw [hlink]
        exact h.reconnectTimer
      · rw [tasks_step (by simp) (by simp) hstep]
        exact henabled.1
      · exact registry_end (.inr ⟨i, rfl⟩) h.backed hstep

theorem finished_run {events : List Event} (h : Finished config bridge)
    (hevents : .connect ∉ events) (hrun : run (step config) bridge events = some next) :
    Finished config next :=
  run_events_invariant
    (fun hmem h => finished_step h fun hconnect => hevents (hconnect ▸ hmem)) h hrun

/-- A bridge that is finished destroys no socket. -/
theorem phase_ne_destroyed_step {event : Event} (h : Finished config bridge)
    (hphase : ∀ i, bridge.link.phase i ≠ .destroyed) (hevent : event ≠ .connect)
    (hstep : step config bridge event = some next) (i : Nat) : next.link.phase i ≠ .destroyed := by
  have henabled := (step_eq_some.mp hstep).1
  have hidle := h.idle i
  rcases phase_step hstep i with ⟨rfl | rfl, rfl⟩ | hchange
  · exact absurd rfl hevent
  · simp [PluginBridge.enabled, h.reconnectTimer] at henabled
  · intro hdestroyed
    have hold := hphase i
    rw [hdestroyed] at hchange
    generalize bridge.link.phase i = phase at hchange hidle hold
    cases hchange with
    | same => exact hold rfl
    | destroy hlive =>
        rw [hlive] at hidle
        cases hidle

/-- A bridge that is finished and settled is gone, whatever happens next. -/
theorem gone_of_finished {events : List Event} (h : Finished config bridge)
    (hsettled : Settled bridge) (hevents : .connect ∉ events)
    (hrun : run (step config) bridge events = some next) : Gone next := by
  obtain ⟨hfinished, hphase⟩ : Finished config next ∧ ∀ i, next.link.phase i ≠ .destroyed := by
    refine @run_events_invariant _ _ _
      (fun bridge => Finished config bridge ∧ ∀ i, bridge.link.phase i ≠ .destroyed) _ ?_ _ _
      ⟨h, fun i => (hsettled.socket i).2⟩ hrun
    intro before event after hmem h hstep
    have hevent : event ≠ .connect := fun hconnect => hevents (hconnect ▸ hmem)
    exact ⟨finished_step h.1 hevent hstep, phase_ne_destroyed_step h.1 h.2 hevent hstep⟩
  refine ⟨fun i hopen => ?_, hfinished.reconnectTimer, ?_⟩
  · have hidle := hfinished.idle i
    rw [hopen] at hidle
    cases hidle
  · exact (hfinished.tools.resolve_left fun ⟨i, hi⟩ => hphase i hi).2

/-! ## What a disconnect leaves behind -/

/-- The phase of a socket that has connected or is closed. -/
def settledPhase : Phase → Phase
  | .connecting => .opened
  | .destroyed => .closed
  | phase => phase

/-- An event that settles a socket leaves no continuations. -/
theorem settle_socket {event : Event} {i : Nat} (h : bridge.tasks = [])
    (hevent : bridge.link.phase i = .connecting ∧ event = .connected i ∨
      bridge.link.phase i = .destroyed ∧ event = .closed i) :
    ∃ next, step config bridge event = some next ∧ next.tasks = [] ∧
      next.link.phase =
        Function.update bridge.link.phase i (settledPhase (bridge.link.phase i)) := by
  have henabled : bridge.enabled event = true := by
    rcases hevent with ⟨hphase, rfl⟩ | ⟨hphase, rfl⟩
    · simp [PluginBridge.enabled, h, hphase]
    · simp [PluginBridge.enabled, h, hphase]
  have hstep := (@step_eq_some _ _ config _ _ event).mpr ⟨henabled, rfl⟩
  refine ⟨_, hstep, ?_, ?_⟩
  · rcases hevent with ⟨_, rfl⟩ | ⟨_, rfl⟩
    · rw [tasks_step (by simp) (by simp) hstep, h]
    · rw [tasks_step (by simp) (by simp) hstep, h]
  · rw [link_step hstep]
    rcases hevent with ⟨hphase, rfl⟩ | ⟨hphase, rfl⟩
    · rw [hphase]
      rfl
    · rw [hphase]
      exact phase_schedule_reconnect

/-- Every socket that is connecting can connect, and every `close` event can come. -/
theorem run_sockets (h : bridge.tasks = []) (count : Nat) :
    ∃ events settled, .connect ∉ events ∧ run (step config) bridge events = some settled ∧
      settled.tasks = [] ∧ ∀ i, settled.link.phase i =
        if i < count then settledPhase (bridge.link.phase i) else bridge.link.phase i := by
  induction count with
  | zero => exact ⟨[], bridge, by simp, rfl, h, fun i => rfl⟩
  | succ count ih =>
      obtain ⟨events, middle, hevents, hrun, htasks, hphase⟩ := ih
      have hcurrent : middle.link.phase count = bridge.link.phase count := by
        rw [hphase, if_neg (Nat.lt_irrefl _)]
      have hupdate : ∀ i, Function.update middle.link.phase count
          (settledPhase (middle.link.phase count)) i =
            if i < count + 1 then settledPhase (bridge.link.phase i) else bridge.link.phase i := by
        intro i
        rw [Function.update_apply, hcurrent, hphase]
        rcases Nat.lt_trichotomy i count with hlt | rfl | hgt
        · rw [if_neg (Nat.ne_of_lt hlt), if_pos hlt, if_pos (Nat.lt_succ_of_lt hlt)]
        · rw [if_pos rfl, if_pos (Nat.lt_succ_self _)]
        · rw [if_neg (Nat.ne_of_gt hgt), if_neg (Nat.lt_asymm hgt), if_neg (Nat.not_lt.mpr hgt)]
      by_cases hevent : ∃ event ≠ Event.connect,
          middle.link.phase count = .connecting ∧ event = .connected count ∨
            middle.link.phase count = .destroyed ∧ event = .closed count
      · obtain ⟨event, hconnect, hevent⟩ := hevent
        obtain ⟨next, hnext, htasks, hsettled⟩ := @settle_socket _ _ config _ _ _ htasks hevent
        refine ⟨events ++ [event], next, ?_, ?_, htasks, fun i => ?_⟩
        · simpa using ⟨hevents, Ne.symm hconnect⟩
        · rw [run_append, hrun]
          exact run_cons_eq_some.mpr ⟨next, hnext, rfl⟩
        · rw [hsettled]
          exact hupdate i
      · refine ⟨events, middle, hevents, hrun, htasks, fun i => ?_⟩
        have hsettled : settledPhase (middle.link.phase count) = middle.link.phase count := by
          generalize middle.link.phase count = phase at hevent
          cases phase with
          | connecting => exact absurd ⟨_, by simp, .inl ⟨rfl, rfl⟩⟩ hevent
          | destroyed => exact absurd ⟨_, by simp, .inr ⟨rfl, rfl⟩⟩ hevent
          | absent | opened | closed => rfl
        rw [← hupdate, hsettled, Function.update_eq_self]

/-- Every call can time out. -/
theorem run_timeouts (bridge : PluginBridge Schema Value) (h : bridge.tasks = []) :
    ∃ events settled, .connect ∉ events ∧ run (step config) bridge events = some settled ∧
      settled.tasks = [] ∧ settled.calls.timers = [] ∧ settled.link = bridge.link := by
  cases htimers : bridge.calls.timers with
  | nil => exact ⟨[], bridge, by simp, rfl, h, htimers, rfl⟩
  | cons id timers =>
      have hstep : step config bridge (.timeout id) =
          some { bridge with calls := bridge.calls.settle id .timedOut } := by
        simp [step, PluginBridge.enabled, fire, h, htimers]
      have hless : (bridge.calls.settle id .timedOut).timers.length <
          bridge.calls.timers.length := by
        rw [Calls.settle, htimers, List.filter_cons_of_neg (by simp)]
        exact Nat.lt_succ_of_le (List.length_filter_le ..)
      obtain ⟨events, settled, hevents, hrun, hsettled⟩ :=
        run_timeouts { bridge with calls := bridge.calls.settle id .timedOut } h
      refine ⟨.timeout id :: events, settled, by simpa using hevents, ?_, hsettled⟩
      exact run_cons_eq_some.mpr ⟨_, hstep, hrun⟩
termination_by bridge.calls.timers.length

/-- A bridge can settle, and then every socket that was in use is open. -/
theorem exists_settled (h : Sourced bridge) :
    ∃ events settled, .connect ∉ events ∧ run (step config) bridge events = some settled ∧
      Settled settled ∧
        ∀ i, (bridge.link.phase i).live = true → settled.link.phase i = .opened := by
  obtain ⟨count, htasks⟩ := @run_tasks _ _ config bridge
  obtain ⟨second, middle, hsecond, hmiddle, hnil, hphase⟩ :=
    @run_sockets _ _ config (drained config bridge) rfl bridge.link.nextSocket
  obtain ⟨third, settled, hthird, hsettled, hnil, htimers, hlink⟩ :=
    @run_timeouts _ _ config middle hnil
  have hused : ∀ i, settled.link.phase i = settledPhase (bridge.link.phase i) := by
    intro i
    rw [hlink, hphase]
    split
    · rfl
    · rename_i hle
      have habsent : bridge.link.phase i = .absent := not_not.mp fun hused => hle (h.used i hused)
      show bridge.link.phase i = _
      rw [habsent]
      rfl
  refine ⟨List.replicate count .task ++ (second ++ third), settled, ?_, ?_, ⟨hnil, htimers, ?_⟩, ?_⟩
  · simp [hsecond, hthird]
  · rw [run_append, htasks, Option.bind_some, run_append, hmiddle]
    exact hsettled
  · intro i
    rw [hused]
    cases bridge.link.phase i <;> simp [settledPhase]
  · intro i hlive
    rw [hused]
    generalize bridge.link.phase i = phase at hlive
    cases phase with
    | connecting | opened => rfl
    | absent | destroyed | closed => cases hlive

/-- For every run up to a call of `disconnect`: the bridge is gone from the moment on at which all
pending callbacks have run, in every continuation without a `connect`, if and only if every socket
that is open or being opened at the call is `this.socket`. -/
theorem disconnect_final_iff {events : List Event}
    (hrun : run (step config) .new events = some before)
    (hstep : step config before .disconnect = some after) :
    (∀ first settled second final, .connect ∉ first → .connect ∉ second →
        run (step config) after first = some settled → Settled settled →
          run (step config) settled second = some final → Gone final) ↔ Quiet before := by
  have hsourced := sourced_run hrun
  constructor
  · intro hgone i hlive
    by_contra hother
    obtain ⟨rest, settled, hrest, hsettle, hsettled, hopen⟩ :=
      @exists_settled _ _ config _ (sourced_step hsourced hstep)
    have hend := hgone rest settled [] settled hrest (by simp) hsettle hsettled rfl
    refine hend.socket i (hopen i ?_)
    -- `disconnect` destroys `this.socket` only.
    rw [link_step hstep, PluginBridge.linkAfter, phase_disconnect, if_neg fun h => hother h.1]
    exact hlive
  · intro hquiet first settled second final hfirst hsecond hsettle hsettled hfinal
    have hfinished := finished_disconnect hquiet hsourced (backed_run hrun) hstep
    exact gone_of_finished (finished_run hfinished hfirst hsettle) hsettled hsecond hfinal

/-- A connection that is open is ended. -/
theorem open_connection_gone :
    ∃ before after, run (step silentConfig) .new [.connect, .connected 0] = some before ∧
      step silentConfig before .disconnect = some after ∧
      ∀ first settled second final, .connect ∉ first → .connect ∉ second →
        run (step silentConfig) after first = some settled → Settled settled →
          run (step silentConfig) settled second = some final → Gone final := by
  obtain ⟨before, after, hrun, hstep, hnext, hsocket⟩ :
      ∃ before after, run (step silentConfig) .new [.connect, .connected 0] = some before ∧
        step silentConfig before .disconnect = some after ∧
        before.link.nextSocket = 1 ∧ before.link.socket = some 0 := ⟨_, _, rfl, rfl, rfl, rfl⟩
  refine ⟨before, after, hrun, hstep, (disconnect_final_iff hrun hstep).mpr fun i hlive => ?_⟩
  have hlt : i < before.link.nextSocket := (sourced_run hrun).used i fun habsent => by
    rw [habsent] at hlive
    cases hlive
  rw [hnext, Nat.lt_one_iff] at hlt
  rw [hsocket, hlt]

/-- A `disconnect` while a socket is connecting does not stop it: its handler takes the socket. -/
theorem connecting_socket_opened :
    ∃ final, run (step silentConfig) .new [.connect, .disconnect, .connected 0] = some final ∧
      Settled final ∧ final.link.phase 0 = .opened ∧ final.link.socket = some 0 := by
  obtain ⟨final, hrun, htasks, htimers, hnext, hopen, hsocket⟩ :
      ∃ final, run (step silentConfig) .new [.connect, .disconnect, .connected 0] = some final ∧
        final.tasks = [] ∧ final.calls.timers = [] ∧ final.link.nextSocket = 1 ∧
        final.link.phase 0 = .opened ∧ final.link.socket = some 0 :=
    ⟨_, rfl, rfl, rfl, rfl, rfl, rfl⟩
  refine ⟨final, hrun, ⟨htasks, htimers, fun i => ?_⟩, hopen, hsocket⟩
  have hused := (sourced_run hrun).used i
  rw [hnext] at hused
  cases i with
  | zero =>
      rw [hopen]
      exact ⟨by simp, by simp⟩
  | succ i =>
      have habsent : final.link.phase (i + 1) = .absent :=
        not_not.mp fun hne => absurd (hused hne) (by omega)
      rw [habsent]
      exact ⟨by simp, by simp⟩

end CorvidNano.Server.Disconnect
