import CorvidNano.Server.RustBridge

/-!
# The continuations of the TypeScript bridge

The event loop runs every continuation before it delivers the next event of a socket or a timer.
`drained` is what they lead to: the requests that they send and the tools that they register.
`run_tasks` and `drained_step` say that the event loop gets there, and nowhere else. `feed` is what
a stream that comes in chunks leads to.
-/

namespace CorvidNano.Server.Microtasks

open PendingCalls RustBridge Runs Sockets Tools

variable {Schema Value : Type} (config : Config Schema Value)

/-- How many requests for the tools the continuations send. -/
def requests : List (Microtask Value) → Nat
  | [] => 0
  | .manifestsResolved result :: tasks =>
      requests tasks + if config.readsManifests result then 1 else 0
  | .manifestsListed :: tasks => requests tasks + 1
  | .toolsResolved _ :: tasks => requests tasks

/-- The tools that the continuations register. -/
def entriesOf (tasks : List (Microtask Value)) : List (Entry Schema) :=
  tasks.flatMap fun
    | .toolsResolved result => config.toolEntries result
    | _ => []

/-- Some requests for the tools, one after the other. -/
def sendTools (calls : Calls Awaiter (JsonRpcResponse Value)) :
    Nat → Calls Awaiter (JsonRpcResponse Value)
  | 0 => calls
  | count + 1 => sendTools (calls.send .tools) count

/-- The bridge when all continuations have run. -/
def drained (bridge : PluginBridge Schema Value) : PluginBridge Schema Value :=
  { bridge with
    calls :=
      if bridge.link.connected then sendTools bridge.calls (requests config bridge.tasks)
      else bridge.calls
    tools :=
      if config.hasRegistry then registerEntries bridge.tools (entriesOf config bridge.tasks)
      else bridge.tools
    tasks := [] }

variable {config} {bridge next : PluginBridge Schema Value}

@[simp] theorem requests_append (first second : List (Microtask Value)) :
    requests config (first ++ second) = requests config first + requests config second := by
  induction first with
  | nil => simp [requests]
  | cons task rest ih =>
      cases task with
      | manifestsResolved result =>
          simp only [List.cons_append, requests, ih]
          omega
      | manifestsListed =>
          simp only [List.cons_append, requests, ih]
          omega
      | toolsResolved result => simp only [List.cons_append, requests, ih]

@[simp] theorem entries_of_append (first second : List (Microtask Value)) :
    entriesOf config (first ++ second) = entriesOf config first ++ entriesOf config second :=
  List.flatMap_append

theorem send_tools_add (calls : Calls Awaiter (JsonRpcResponse Value)) (first second : Nat) :
    sendTools (sendTools calls first) second = sendTools calls (first + second) := by
  induction first generalizing calls with
  | zero => rw [Nat.zero_add]; rfl
  | succ first ih =>
      rw [Nat.succ_add]
      exact ih _

/-- Requests for the tools change nothing for the calls that were sent before. -/
theorem awaiter_send_tools {calls : Calls Awaiter (JsonRpcResponse Value)} {id : Nat}
    (h : id < calls.nextId) (count : Nat) :
    (sendTools calls count).awaiter? id = calls.awaiter? id := by
  induction count generalizing calls with
  | zero => rfl
  | succ count ih => exact (ih (Nat.lt_succ_of_lt h)).trans (awaiter_send h _)

theorem finish_send_tools {calls : Calls Awaiter (JsonRpcResponse Value)} {id : Nat}
    (h : id < calls.nextId) (response : JsonRpcResponse Value) (count : Nat) :
    response.finish (sendTools calls count) id = sendTools (response.finish calls id) count := by
  induction count generalizing calls with
  | zero => rfl
  | succ count ih =>
      have hnext : id < (calls.send .tools).nextId := Nat.lt_succ_of_lt h
      have hcalls := ih hnext
      rw [finish_send response h] at hcalls
      exact hcalls

theorem register_entries_append (tools : ToolSets Schema) (first second : List (Entry Schema)) :
    registerEntries tools (first ++ second) =
      registerEntries (registerEntries tools first) second :=
  List.foldl_append

/-- A bridge without continuations is what they lead to. -/
theorem drained_of_nil (h : bridge.tasks = []) : drained config bridge = bridge := by
  obtain ⟨link, buffer, calls, tools, tasks, handled⟩ := bridge
  obtain rfl : tasks = [] := h
  simp [drained, requests, entriesOf, sendTools, registerEntries]

/-- A continuation leads to where it leads with those behind it. -/
theorem drained_run_task {task : Microtask Value} {tasks : List (Microtask Value)}
    (h : bridge.tasks = task :: tasks) :
    drained config (runTask config { bridge with tasks } task) = drained config bridge := by
  cases task with
  | manifestsResolved result =>
      by_cases hreads : config.readsManifests result = true
      · simp [runTask, drained, h, hreads, requests, entriesOf]
      · simp [runTask, drained, h, hreads, requests, entriesOf]
  | manifestsListed =>
      by_cases hconnected : bridge.link.connected = true
      · simp [runTask, rpc, drained, h, hconnected, requests, entriesOf, sendTools]
      · simp [runTask, rpc, drained, h, hconnected, entriesOf]
  | toolsResolved result =>
      unfold runTask
      dsimp only
      rw [on_registry_eq]
      by_cases hregistry : config.hasRegistry = true
      · simp [drained, h, hregistry, requests, entriesOf, register_entries_append]
      · simp [drained, h, hregistry, requests]

/-- Running a continuation does not change where the continuations lead. -/
theorem drained_step (h : step config bridge .task = some next) :
    drained config next = drained config bridge := by
  obtain ⟨task, tasks, htasks, rfl⟩ := step_task_eq_some.mp h
  exact drained_run_task htasks

/-- Continuations come from chunks and from other continuations. -/
theorem tasks_step {event : Event} (htask : event ≠ .task)
    (hdata : ∀ i chunk, event ≠ .data i chunk) (h : step config bridge event = some next) :
    next.tasks = bridge.tasks := by
  obtain ⟨_, rfl⟩ := step_eq_some.mp h
  cases event with
  | connect | reconnect | timeout | errored | ended => rfl
  | task => exact absurd rfl htask
  | data i chunk => exact absurd rfl (hdata i chunk)
  | call =>
      show (rpc bridge _).tasks = _
      rw [rpc_eq]
  | disconnect | closed =>
      show (config.onRegistry _ _).tasks = _
      rw [on_registry_eq]
  | refreshTools | connected =>
      show (RustBridge.refreshTools config _).tasks = _
      rw [refresh_tools_eq]

/-- How many continuations are still to run, with those that they lead to. -/
def weight : List (Microtask Value) → Nat
  | [] => 0
  | .manifestsResolved _ :: tasks => weight tasks + 2
  | .manifestsListed :: tasks => weight tasks + 1
  | .toolsResolved _ :: tasks => weight tasks + 1

theorem weight_concat_listed (tasks : List (Microtask Value)) :
    weight (tasks ++ [.manifestsListed]) = weight tasks + 1 := by
  induction tasks with
  | nil => rfl
  | cons task rest ih =>
      cases task with
      | manifestsResolved result => simp only [List.cons_append, weight, ih]
      | manifestsListed => simp only [List.cons_append, weight, ih]
      | toolsResolved result => simp only [List.cons_append, weight, ih]

/-- A continuation that has run is not to run any more. -/
theorem weight_run_task {task : Microtask Value} {tasks : List (Microtask Value)} :
    weight (runTask config { bridge with tasks } task).tasks < weight (task :: tasks) := by
  cases task with
  | manifestsResolved result =>
      unfold runTask
      dsimp only
      split
      · rw [weight_concat_listed]
        exact Nat.lt_succ_self _
      · exact Nat.lt_add_of_pos_right (by decide)
  | manifestsListed =>
      show weight (rpc _ _).tasks < _
      rw [rpc_eq, weight]
      exact Nat.lt_succ_self _
  | toolsResolved result =>
      show weight (config.onRegistry _ _).tasks < _
      rw [on_registry_eq, weight]
      exact Nat.lt_succ_self _

/-- The event loop runs all continuations. -/
theorem run_tasks (bridge : PluginBridge Schema Value) :
    ∃ count,
      run (step config) bridge (List.replicate count .task) = some (drained config bridge) := by
  cases htasks : bridge.tasks with
  | nil => exact ⟨0, by rw [drained_of_nil htasks]; rfl⟩
  | cons task tasks =>
      have hstep : step config bridge .task =
          some (runTask config { bridge with tasks } task) :=
        step_task_eq_some.mpr ⟨task, tasks, htasks, rfl⟩
      have hless :
          weight (runTask config { bridge with tasks } task).tasks < weight bridge.tasks := by
        rw [htasks]
        exact weight_run_task
      obtain ⟨count, hcount⟩ := run_tasks (runTask config { bridge with tasks } task)
      refine ⟨count + 1, run_cons_eq_some.mpr ⟨_, hstep, ?_⟩⟩
      rw [hcount, drained_run_task htasks]
termination_by weight bridge.tasks

/-! ## A stream in chunks -/

variable (config) in
/-- A socket delivers the chunks in order as long as it can, and the event loop runs the
continuations after each of them. -/
def feed (i : Nat) (bridge : PluginBridge Schema Value) : List JsString →
    PluginBridge Schema Value
  | [] => bridge
  | chunk :: rest =>
      match step config bridge (.data i chunk) with
      | none => bridge
      | some next => feed i (drained config next) rest

/-- A stream in chunks is a run in which nothing else happens. -/
theorem run_feed (i : Nat) (bridge : PluginBridge Schema Value) (chunks : List JsString) :
    ∃ events, run (step config) bridge events = some (feed config i bridge chunks) ∧
      ∀ event ∈ events, event = .task ∨ ∃ chunk ∈ chunks, event = .data i chunk := by
  induction chunks generalizing bridge with
  | nil => exact ⟨[], rfl, by simp⟩
  | cons chunk rest ih =>
      unfold feed
      split
      · exact ⟨[], rfl, by simp⟩
      · rename_i next hnext
        obtain ⟨count, hcount⟩ := @run_tasks _ _ config next
        obtain ⟨events, hrun, hevents⟩ := ih (drained config next)
        refine ⟨.data i chunk :: (List.replicate count .task ++ events), ?_, fun event hevent => ?_⟩
        · refine run_cons_eq_some.mpr ⟨next, hnext, ?_⟩
          rw [run_append, hcount]
          exact hrun
        · rcases List.mem_cons.mp hevent with rfl | hevent
          · exact .inr ⟨chunk, by simp, rfl⟩
          · rcases List.mem_append.mp hevent with hevent | hevent
            · exact .inl (List.eq_of_mem_replicate hevent)
            · refine (hevents event hevent).imp_right fun ⟨other, hother, heq⟩ => ?_
              exact ⟨other, List.mem_cons_of_mem _ hother, heq⟩

/-- A socket that is not open delivers nothing. -/
theorem feed_of_not_open {i : Nat} (hphase : bridge.link.phase i ≠ .opened)
    (chunks : List JsString) : feed config i bridge chunks = bridge := by
  cases chunks with
  | nil => rfl
  | cons chunk rest => simp [feed, step, PluginBridge.enabled, hphase]

end CorvidNano.Server.Microtasks
