import CorvidNano.Library.Lines
import CorvidNano.Library.Runs
import CorvidNano.Server.PendingCalls
import CorvidNano.Server.Sockets
import CorvidNano.Server.Tools

/-!
# The TypeScript bridge

`PluginBridge` of `rust-bridge.ts` as a machine whose events are the calls of its users, the
events of its sockets, its timers, and the continuations of its own promises. The event loop runs
all continuations before it delivers the next event of a socket or a timer. Users can call at any
time.

A promise that is rejected has no continuation that changes the bridge, and neither have those of
the users. The tiers of the plugins and the delay of the next connection only make timers longer
or shorter, so they are left out.
-/

namespace CorvidNano.Server.RustBridge

open PendingCalls Runs Sockets Tools

/-- A text of JavaScript, by its code units. -/
abbrev JsString := List UInt16

/-- The code unit that ends a line. -/
def newline : UInt16 := 10

/-- What `trim` removes. -/
def isWhiteSpace (unit : UInt16) : Bool :=
  unit ∈ ([9, 10, 11, 12, 13, 32, 160, 0x1680, 0x2028, 0x2029, 0x202f, 0x205f, 0x3000, 0xfeff] :
    List UInt16) || (0x2000 ≤ unit && unit ≤ 0x200a)

/-- Nothing is left of the line when it is trimmed. -/
def isBlank (line : JsString) : Bool := line.all isWhiteSpace

/-- `MAX_BUFFER_BYTES`. -/
def maxBufferBytes : Nat := 1048576

/-- `JsonRpcNotification`. A field that is falsy is `none`. The tools are those up to the first one
that cannot be read, at which their registration throws. -/
structure JsonRpcNotification (Schema : Type) where
  event : String
  pluginId : Option String
  tools : Option (List (WireToolInfo Schema))

/-- The field `error` of a response. A host may send any value there: `new Error(resp.error)` takes
its text, and throws where it has none, as for `{"toString": 1}`. -/
inductive ErrorField where
  | falsy
  | text (message : String)
  | noText
  deriving DecidableEq

/-- `JsonRpcResponse`. An id that is no number of a call is `none`. -/
structure JsonRpcResponse (Value : Type) where
  result : Value
  error : ErrorField
  id : Option Nat
  deriving DecidableEq

/-- A line of the host: it is a notification if it has an `event` that is a string. -/
inductive Message (Schema Value : Type) where
  | notification (notification : JsonRpcNotification Schema)
  | response (response : JsonRpcResponse Value)

/-- What lies outside the bridge: `JSON.parse`, which is `none` where it throws and for `null`,
the casts to the wire types, whether the manifests of a result of `plugin.list` can be mapped, and
the entries of a result of `plugin.tools` up to the first one that cannot be read. The casts check
nothing. `message` is `none` where the id of a plugin is not a text, and `typed` assumes that the
host sends no such message. A bridge may be made without a registry. -/
structure Config (Schema Value : Type) where
  json : JsString → Option Value
  message : Value → Option (Message Schema Value)
  typed : ∀ line value, json line = some value → (message value).isSome = true
  readsManifests : Value → Bool
  toolEntries : Value → List (Entry Schema)
  hasRegistry : Bool

/-- The message of a line that is not blank, if it can be parsed. -/
def Config.parse {Schema Value : Type} (config : Config Schema Value) (line : JsString) :
    Option (Message Schema Value) :=
  (config.json line).bind config.message

/-- What goes on when the promise of a call is resolved: the code of a user, `listManifests` in a
refresh of the tools, or the refresh itself. -/
inductive Awaiter where
  | caller
  | manifests
  | tools
  deriving DecidableEq

/-- A continuation that the event loop has to run. -/
inductive Microtask (Value : Type) where
  | manifestsResolved (result : Value)
  | manifestsListed
  | toolsResolved (result : Value)
  deriving DecidableEq

/-- `PluginBridge`, with the continuations that are due, and the lines that were parsed, which are
a record of the run. -/
structure PluginBridge (Schema Value : Type) where
  link : Link
  buffer : JsString
  calls : Calls Awaiter (JsonRpcResponse Value)
  tools : ToolSets Schema
  tasks : List (Microtask Value)
  handled : List JsString

variable {Schema Value : Type}

/-- A new bridge. -/
def PluginBridge.new : PluginBridge Schema Value where
  link := .start
  buffer := []
  calls := .start
  tools := .empty
  tasks := []
  handled := []

/-- `rpcWithTimeout`. Without a connection the promise is rejected at once. -/
def rpc (bridge : PluginBridge Schema Value) (awaiter : Awaiter) : PluginBridge Schema Value :=
  if bridge.link.connected then { bridge with calls := bridge.calls.send awaiter } else bridge

variable (config : Config Schema Value)

/-- What a function does with the tools if there is a registry. -/
def Config.onRegistry (change : ToolSets Schema → ToolSets Schema)
    (bridge : PluginBridge Schema Value) : PluginBridge Schema Value :=
  if config.hasRegistry then { bridge with tools := change bridge.tools } else bridge

/-- `refreshTools`, up to its first `await`. -/
def refreshTools (bridge : PluginBridge Schema Value) : PluginBridge Schema Value :=
  if config.hasRegistry then rpc (config.onRegistry unregisterAllTools bridge) .manifests
  else bridge

/-- The plugin and the tools of a notification that registers tools. -/
def JsonRpcNotification.registration (notification : JsonRpcNotification Schema) :
    Option (String × List (WireToolInfo Schema)) :=
  if notification.event = "plugin.tools_registered" then
    match notification.pluginId, notification.tools with
    | some pluginId, some tools => if pluginId = "" then none else some (pluginId, tools)
    | _, _ => none
  else none

/-- `handleNotification`. -/
def handleNotification (bridge : PluginBridge Schema Value)
    (notification : JsonRpcNotification Schema) : PluginBridge Schema Value :=
  match notification.registration with
  | some (pluginId, rawTools) =>
      config.onRegistry (fun tools => refreshPluginTools tools pluginId rawTools) bridge
  | none => bridge

/-- A response with an error does not resolve the promise. -/
def JsonRpcResponse.isError (response : JsonRpcResponse Value) : Bool := response.error ≠ .falsy

/-- What a response does with its pending call. Where the error has no text, `new Error` throws
after `this.pending.delete`, and the promise is neither resolved nor rejected. -/
def JsonRpcResponse.finish (response : JsonRpcResponse Value)
    (calls : Calls Awaiter (JsonRpcResponse Value)) (id : Nat) :
    Calls Awaiter (JsonRpcResponse Value) :=
  if response.error = .noText then calls.delete id else calls.settle id (.answered response)

/-- The continuation of a promise that is resolved. -/
def Awaiter.resume (awaiter : Awaiter) (result : Value) : List (Microtask Value) :=
  match awaiter with
  | .caller => []
  | .manifests => [.manifestsResolved result]
  | .tools => [.toolsResolved result]

/-- The part of `handleData` for a response. -/
def handleResponse (bridge : PluginBridge Schema Value) (response : JsonRpcResponse Value) :
    PluginBridge Schema Value :=
  match response.id with
  | none => bridge
  | some id =>
      match bridge.calls.awaiter? id with
      | none => bridge
      | some awaiter =>
          { bridge with
            calls := response.finish bridge.calls id
            tasks := bridge.tasks ++
              if response.isError then [] else awaiter.resume response.result }

/-- The part of `handleData` for a message. -/
def handleMessage (bridge : PluginBridge Schema Value) : Message Schema Value →
    PluginBridge Schema Value
  | .notification notification => handleNotification config bridge notification
  | .response response => handleResponse bridge response

/-- The part of `handleData` for a line. A line that cannot be parsed is ignored. -/
def handleLine (bridge : PluginBridge Schema Value) (line : JsString) :
    PluginBridge Schema Value :=
  if isBlank line then bridge
  else
    let bridge := { bridge with handled := bridge.handled ++ [line] }
    match config.parse line with
    | none => bridge
    | some message => handleMessage config bridge message

/-- `handleData`. The bound is on the whole buffer, with the lines in it that are complete. -/
def handleData (bridge : PluginBridge Schema Value) (chunk : JsString) :
    PluginBridge Schema Value :=
  let buffer := bridge.buffer ++ chunk
  if maxBufferBytes < buffer.length then
    { bridge with buffer, link := bridge.link.destroySocket }
  else
    (Lines.split newline buffer).1.foldl (handleLine config)
      { bridge with buffer := (Lines.split newline buffer).2 }

/-- `disconnect`. -/
def disconnect (bridge : PluginBridge Schema Value) : PluginBridge Schema Value :=
  config.onRegistry unregisterAllTools
    { bridge with
      link := bridge.link.disconnect
      calls := bridge.calls.rejectAll .disconnected }

/-- The handler of `connect`. -/
def handleConnect (bridge : PluginBridge Schema Value) (i : Nat) : PluginBridge Schema Value :=
  refreshTools config { bridge with link := bridge.link.handleConnect i, buffer := [] }

/-- The handler of `close`. -/
def handleClose (bridge : PluginBridge Schema Value) (i : Nat) : PluginBridge Schema Value :=
  config.onRegistry unregisterAllTools
    { bridge with
      link := bridge.link.handleClose i
      calls := bridge.calls.rejectAll .socketClosed }

/-- One continuation. -/
def runTask (bridge : PluginBridge Schema Value) : Microtask Value → PluginBridge Schema Value
  | .manifestsResolved result =>
      -- `listManifests` returns to `refreshTools`, unless it throws.
      if config.readsManifests result then
        { bridge with tasks := bridge.tasks ++ [.manifestsListed] }
      else bridge
  | .manifestsListed => rpc bridge .tools
  | .toolsResolved result =>
      config.onRegistry (fun tools => registerEntries tools (config.toolEntries result)) bridge

/-- The message of a line, if it has one. -/
def message? (line : JsString) : Option (Message Schema Value) :=
  if isBlank line then none else config.parse line

/-- A condition on the messages of some lines, each in the state in which it is handled. -/
def EachMessage (allowed : PluginBridge Schema Value → Message Schema Value → Prop) :
    PluginBridge Schema Value → List JsString → Prop
  | _, [] => True
  | bridge, line :: rest =>
      (∀ message ∈ message? config line, allowed bridge message) ∧
        EachMessage allowed (handleLine config bridge line) rest

/-- The calls of the users, the event loop, and the events of a socket: it is connected, it fails,
it ends by itself, it delivers a chunk, it is closed. -/
inductive Event where
  | connect
  | disconnect
  | refreshTools
  | call
  | task
  | reconnect
  | timeout (id : Nat)
  | connected (i : Nat)
  | errored (i : Nat)
  | ended (i : Nat)
  | data (i : Nat) (chunk : JsString)
  | closed (i : Nat)
  deriving DecidableEq

/-- The event can occur. -/
def PluginBridge.enabled (bridge : PluginBridge Schema Value) : Event → Bool
  | .connect | .disconnect | .refreshTools | .call => true
  | .task => !bridge.tasks.isEmpty
  | .reconnect => bridge.tasks.isEmpty && bridge.link.reconnectTimer
  | .timeout id => bridge.tasks.isEmpty && id ∈ bridge.calls.timers
  | .connected i => bridge.tasks.isEmpty && bridge.link.phase i = .connecting
  | .errored i => bridge.tasks.isEmpty && (bridge.link.phase i).live
  | .ended i | .data i _ => bridge.tasks.isEmpty && bridge.link.phase i = .opened
  | .closed i => bridge.tasks.isEmpty && bridge.link.phase i = .destroyed

/-- What an event does. -/
def fire (bridge : PluginBridge Schema Value) : Event → PluginBridge Schema Value
  | .connect => { bridge with link := bridge.link.connect }
  | .disconnect => disconnect config bridge
  | .refreshTools => refreshTools config bridge
  | .call => rpc bridge .caller
  | .task =>
      match bridge.tasks with
      | [] => bridge
      | task :: tasks => runTask config { bridge with tasks } task
  | .reconnect => { bridge with link := bridge.link.reconnect }
  | .timeout id => { bridge with calls := bridge.calls.settle id .timedOut }
  | .connected i => handleConnect config bridge i
  | .errored i => { bridge with link := bridge.link.handleError i }
  | .ended i => { bridge with link := bridge.link.destroy i }
  | .data _ chunk => handleData config bridge chunk
  | .closed i => handleClose config bridge i

/-- One step of the bridge. -/
def step (bridge : PluginBridge Schema Value) (event : Event) :
    Option (PluginBridge Schema Value) :=
  if bridge.enabled event then some (fire config bridge event) else none

/-- A condition on the messages of a chunk that is handled. -/
def InChunk (allowed : PluginBridge Schema Value → Message Schema Value → Prop)
    (bridge : PluginBridge Schema Value) : Event → Prop
  | .data _ chunk =>
      (bridge.buffer ++ chunk).length ≤ maxBufferBytes →
        EachMessage config allowed
          { bridge with buffer := (Lines.split newline (bridge.buffer ++ chunk)).2 }
          (Lines.split newline (bridge.buffer ++ chunk)).1
  | _ => True

section Decidable

variable (allowed : PluginBridge Schema Value → Message Schema Value → Prop)
  [∀ bridge message, Decidable (allowed bridge message)]

instance decidableEachMessage : (bridge : PluginBridge Schema Value) → (lines : List JsString) →
    Decidable (EachMessage config allowed bridge lines)
  | _, [] => isTrue trivial
  | bridge, line :: rest =>
      have := decidableEachMessage (handleLine config bridge line) rest
      inferInstanceAs (Decidable ((∀ message ∈ message? config line, _) ∧ _))

instance decidableInChunk (bridge : PluginBridge Schema Value) (event : Event) :
    Decidable (InChunk config allowed bridge event) :=
  match event with
  | .data _ chunk =>
      inferInstanceAs (Decidable ((bridge.buffer ++ chunk).length ≤ maxBufferBytes → _))
  | .connect | .disconnect | .refreshTools | .call | .task | .reconnect | .timeout _
  | .connected _ | .errored _ | .ended _ | .closed _ => inferInstanceAs (Decidable True)

end Decidable

variable {config} {bridge next : PluginBridge Schema Value}

theorem step_eq_some {event : Event} :
    step config bridge event = some next ↔
      bridge.enabled event = true ∧ fire config bridge event = next := by
  simp [step]

/-- The event loop runs the first continuation. -/
theorem step_task_eq_some :
    step config bridge .task = some next ↔
      ∃ task tasks, bridge.tasks = task :: tasks ∧
        runTask config { bridge with tasks } task = next := by
  rw [step_eq_some]
  cases htasks : bridge.tasks with
  | nil => simp [PluginBridge.enabled, htasks]
  | cons task tasks => simp [PluginBridge.enabled, fire, htasks]

/-- An open socket delivers a chunk when no continuation is due. -/
theorem step_data_eq_some {i : Nat} {chunk : JsString} :
    step config bridge (.data i chunk) = some next ↔
      (bridge.tasks = [] ∧ bridge.link.phase i = .opened) ∧
        handleData config bridge chunk = next := by
  simp [step_eq_some, PluginBridge.enabled, fire]

/-- A call can be answered before or after the next one is sent. -/
theorem finish_send (response : JsonRpcResponse Value)
    {calls : Calls Awaiter (JsonRpcResponse Value)} {id : Nat} (h : id < calls.nextId)
    (awaiter : Awaiter) :
    response.finish (calls.send awaiter) id = (response.finish calls id).send awaiter := by
  unfold JsonRpcResponse.finish
  split
  · exact delete_send h awaiter
  · exact settle_send h awaiter _

/-! ## What the functions leave alone -/

/-- A call changes the calls only. -/
theorem rpc_eq (bridge : PluginBridge Schema Value) (awaiter : Awaiter) :
    rpc bridge awaiter = { bridge with calls := (rpc bridge awaiter).calls } := by
  unfold rpc
  split <;> rfl

/-- A change of the tools changes the tools only. -/
theorem on_registry_eq (change : ToolSets Schema → ToolSets Schema)
    (bridge : PluginBridge Schema Value) :
    config.onRegistry change bridge =
      { bridge with
        tools := if config.hasRegistry then change bridge.tools else bridge.tools } := by
  unfold Config.onRegistry
  split <;> rfl

/-- A refresh changes the tools and the calls only. -/
theorem refresh_tools_eq (bridge : PluginBridge Schema Value) :
    refreshTools config bridge =
      { bridge with
        calls := (refreshTools config bridge).calls
        tools :=
          if config.hasRegistry then unregisterAllTools bridge.tools else bridge.tools } := by
  unfold refreshTools
  split
  · rename_i hregistry
    rw [rpc_eq, on_registry_eq, if_pos hregistry]
  · rfl

/-- A message changes the calls, the tools and the continuations only. -/
theorem handle_message_eq (bridge : PluginBridge Schema Value) (message : Message Schema Value) :
    handleMessage config bridge message =
      { bridge with
        calls := (handleMessage config bridge message).calls
        tools := (handleMessage config bridge message).tools
        tasks := (handleMessage config bridge message).tasks } := by
  cases message with
  | notification notification =>
      unfold handleMessage handleNotification
      dsimp only
      split
      · rw [on_registry_eq]
      · rfl
  | response response =>
      unfold handleMessage handleResponse
      dsimp only
      split
      · rfl
      · split <;> rfl

/-- The lines that are parsed. -/
def parsed (lines : List JsString) : List JsString := lines.filter fun line => !isBlank line

/-- A line is parsed if it is not blank. -/
theorem handle_line_eq (bridge : PluginBridge Schema Value) (line : JsString) :
    handleLine config bridge line =
      { bridge with
        calls := (handleLine config bridge line).calls
        tools := (handleLine config bridge line).tools
        tasks := (handleLine config bridge line).tasks
        handled := bridge.handled ++ parsed [line] } := by
  unfold handleLine parsed
  split
  · rename_i hblank
    simp [hblank]
  · rename_i hblank
    dsimp only
    split
    · simp [hblank]
    · rw [handle_message_eq]
      simp [hblank]

/-- A line is handled by its message, if it has one. -/
theorem handle_line_elim (bridge : PluginBridge Schema Value) (line : JsString) :
    handleLine config bridge line =
      (message? config line).elim { bridge with handled := bridge.handled ++ parsed [line] }
        (handleMessage config { bridge with handled := bridge.handled ++ parsed [line] }) := by
  unfold message? handleLine parsed
  by_cases hblank : isBlank line = true
  · simp [hblank]
  · simp only [hblank, Bool.false_eq_true, if_false, List.filter_cons, List.filter_nil,
      Bool.not_false, if_true]
    cases config.parse line with
    | none => rfl
    | some message => rfl

/-- What the lines of a chunk leave alone. -/
theorem foldl_handle_line_eq (bridge : PluginBridge Schema Value) (lines : List JsString) :
    lines.foldl (handleLine config) bridge =
      { bridge with
        calls := (lines.foldl (handleLine config) bridge).calls
        tools := (lines.foldl (handleLine config) bridge).tools
        tasks := (lines.foldl (handleLine config) bridge).tasks
        handled := bridge.handled ++ parsed lines } := by
  induction lines generalizing bridge with
  | nil => simp [parsed]
  | cons line rest ih =>
      rw [List.foldl_cons, ih, handle_line_eq]
      simp [parsed, List.append_assoc, ← List.filter_append]

/-- What every line keeps is kept by the lines of a chunk. -/
theorem foldl_handle_line_invariant {Inv : PluginBridge Schema Value → Prop}
    {lines : List JsString}
    (hstep : ∀ bridge, ∀ line ∈ lines, Inv bridge → Inv (handleLine config bridge line))
    (h : Inv bridge) : Inv (lines.foldl (handleLine config) bridge) := by
  induction lines generalizing bridge with
  | nil => exact h
  | cons line rest ih =>
      refine ih (fun bridge other hother => hstep bridge other (List.mem_cons_of_mem _ hother)) ?_
      exact hstep bridge line (by simp) h

/-- A chunk has an effect on the sockets only if it is too much. -/
theorem link_handle_data (bridge : PluginBridge Schema Value) (chunk : JsString) :
    (handleData config bridge chunk).link =
      if maxBufferBytes < (bridge.buffer ++ chunk).length then bridge.link.destroySocket
      else bridge.link := by
  unfold handleData
  dsimp only
  split
  · rfl
  · rw [foldl_handle_line_eq]

/-- A continuation changes the calls, the tools and the continuations only. -/
theorem run_task_eq (bridge : PluginBridge Schema Value) (task : Microtask Value) :
    runTask config bridge task =
      { bridge with
        calls := (runTask config bridge task).calls
        tools := (runTask config bridge task).tools
        tasks := (runTask config bridge task).tasks } := by
  cases task with
  | manifestsResolved result =>
      unfold runTask
      dsimp only
      split <;> rfl
  | manifestsListed =>
      unfold runTask
      dsimp only
      rw [rpc_eq]
  | toolsResolved result =>
      unfold runTask
      dsimp only
      rw [on_registry_eq]

/-! ## The tools -/

/-- A change of the tools keeps what it keeps where there is a registry. -/
theorem on_registry_invariant {Inv : ToolSets Schema → Prop}
    {change : ToolSets Schema → ToolSets Schema}
    (hchange : config.hasRegistry = true → Inv bridge.tools → Inv (change bridge.tools))
    (h : Inv bridge.tools) : Inv (config.onRegistry change bridge).tools := by
  rw [on_registry_eq]
  dsimp only
  split
  · rename_i hregistry
    exact hchange hregistry h
  · exact h

/-- A line changes the tools only if it is a notification that registers tools. -/
theorem tools_handle_line {Inv : ToolSets Schema → Prop} {line : JsString}
    (hrefresh : ∀ notification pluginId rawTools, config.hasRegistry = true →
      config.parse line = some (.notification notification) →
      notification.registration = some (pluginId, rawTools) → Inv bridge.tools →
        Inv (refreshPluginTools bridge.tools pluginId rawTools))
    (h : Inv bridge.tools) : Inv (handleLine config bridge line).tools := by
  unfold handleLine
  split
  · exact h
  · dsimp only
    split
    · exact h
    · rename_i message hparse
      cases message with
      | notification notification =>
          unfold handleMessage handleNotification
          dsimp only
          split
          · rename_i pluginId rawTools hregistration
            exact on_registry_invariant
              (fun hregistry h => hrefresh notification pluginId rawTools hregistry hparse
                hregistration h) h
          · exact h
      | response response =>
          unfold handleMessage handleResponse
          dsimp only
          split
          · exact h
          · split
            · exact h
            · exact h

/-- What the three changes of the tools keep is kept by every event. The hypotheses name the
notifications of the chunk and the continuation that an event handles. -/
theorem tools_step {Inv : ToolSets Schema → Prop} {event : Event}
    (hall : config.hasRegistry = true → ∀ tools, Inv tools → Inv (unregisterAllTools tools))
    (hrefresh : ∀ i chunk line notification pluginId rawTools tools, config.hasRegistry = true →
      event = .data i chunk → line ∈ (Lines.split newline (bridge.buffer ++ chunk)).1 →
      config.parse line = some (.notification notification) →
      notification.registration = some (pluginId, rawTools) → Inv tools →
        Inv (refreshPluginTools tools pluginId rawTools))
    (hentries : ∀ result, config.hasRegistry = true → event = .task →
      bridge.tasks.head? = some (.toolsResolved result) → Inv bridge.tools →
        Inv (registerEntries bridge.tools (config.toolEntries result)))
    (h : Inv bridge.tools) (hstep : step config bridge event = some next) : Inv next.tools := by
  obtain ⟨_, rfl⟩ := step_eq_some.mp hstep
  have hrefreshed : ∀ before : PluginBridge Schema Value, before.tools = bridge.tools →
      Inv (refreshTools config before).tools := by
    intro before hbefore
    rw [refresh_tools_eq]
    dsimp only
    rw [hbefore]
    split
    · rename_i hregistry
      exact hall hregistry _ h
    · exact h
  cases event with
  | connect | reconnect | timeout | errored | ended => exact h
  | call =>
      show Inv (rpc bridge _).tools
      rw [rpc_eq]
      exact h
  | disconnect => exact on_registry_invariant (fun hregistry => hall hregistry _) h
  | closed i => exact on_registry_invariant (fun hregistry => hall hregistry _) h
  | refreshTools => exact hrefreshed _ rfl
  | connected i => exact hrefreshed _ rfl
  | task =>
      unfold fire
      dsimp only
      split
      · exact h
      · rename_i task tasks htasks
        cases task with
        | manifestsResolved result =>
            unfold runTask
            dsimp only
            split
            · exact h
            · exact h
        | manifestsListed =>
            show Inv (rpc _ _).tools
            rw [rpc_eq]
            exact h
        | toolsResolved result =>
            refine on_registry_invariant (fun hregistry _ => ?_) h
            exact hentries result hregistry rfl (by rw [htasks]; rfl) h
  | data i chunk =>
      show Inv (handleData config bridge chunk).tools
      unfold handleData
      dsimp only
      split
      · exact h
      · refine @foldl_handle_line_invariant _ _ _ _ (fun bridge => Inv bridge.tools) _ ?_ h
        intro before line hline hbefore
        refine tools_handle_line
          (fun notification pluginId rawTools hregistry hparse hreg htools => ?_) hbefore
        exact hrefresh i chunk line notification pluginId rawTools before.tools hregistry rfl hline
          hparse hreg htools

/-- The registry has the tools of `registeredTools`, and there are none without a registry. -/
structure Backed (config : Config Schema Value) (tools : ToolSets Schema) : Prop where
  registered : Registered tools
  empty : config.hasRegistry = false → tools = .empty

/-- With a registry, only `registeredTools` matters. -/
theorem backed_of_registered {tools : ToolSets Schema} (hregistry : config.hasRegistry = true)
    (h : Registered tools) : Backed config tools :=
  ⟨h, fun hnone => by rw [hregistry] at hnone; cases hnone⟩

theorem backed_step {event : Event} (h : Backed config bridge.tools)
    (hstep : step config bridge event = some next) : Backed config next.tools := by
  refine tools_step ?_ ?_ ?_ h hstep
  · intro hregistry tools htools
    exact backed_of_registered hregistry (registered_unregister_all htools.registered)
  · intro _ _ _ _ pluginId rawTools tools hregistry _ _ _ _ htools
    exact backed_of_registered hregistry (registered_refresh htools.registered pluginId rawTools)
  · intro result hregistry _ _ htools
    exact backed_of_registered hregistry (registered_register_entries htools.registered _)

/-- The registry always has the tools of `registeredTools`. -/
theorem backed_run {events : List Event}
    (hrun : run (step config) .new events = some bridge) : Backed config bridge.tools :=
  @run_invariant _ _ _ (fun bridge => Backed config bridge.tools) backed_step _ _ _
    ⟨registered_empty, fun _ => rfl⟩ hrun

/-- When a connection has ended there is nothing in the registry. -/
theorem registry_end {event : Event} (hevent : event = .disconnect ∨ ∃ i, event = .closed i)
    (h : Backed config bridge.tools) (hstep : step config bridge event = some next)
    (name : String) : next.tools.registry name = none := by
  obtain ⟨_, rfl⟩ := step_eq_some.mp hstep
  have htools : (fire config bridge event).tools =
      if config.hasRegistry then unregisterAllTools bridge.tools else bridge.tools := by
    rcases hevent with rfl | ⟨i, rfl⟩
    · exact congrArg PluginBridge.tools (on_registry_eq ..)
    · exact congrArg PluginBridge.tools (on_registry_eq ..)
  rw [htools]
  split
  · exact registry_unregister_all h.registered name
  · rename_i hregistry
    rw [h.empty (by simpa using hregistry)]
    rfl

/-! ## The sockets -/

/-- What an event does to the sockets. -/
def PluginBridge.linkAfter (bridge : PluginBridge Schema Value) : Event → Link
  | .connect => bridge.link.connect
  | .disconnect => bridge.link.disconnect
  | .reconnect => bridge.link.reconnect
  | .connected i => bridge.link.handleConnect i
  | .errored i => bridge.link.handleError i
  | .ended i => bridge.link.destroy i
  | .closed i => bridge.link.handleClose i
  | .data _ chunk =>
      if maxBufferBytes < (bridge.buffer ++ chunk).length then bridge.link.destroySocket
      else bridge.link
  | .refreshTools | .call | .task | .timeout _ => bridge.link

theorem link_fire (event : Event) : (fire config bridge event).link = bridge.linkAfter event := by
  cases event with
  | connect | reconnect | timeout | errored | ended => rfl
  | disconnect | closed =>
      show (config.onRegistry _ _).link = _
      rw [on_registry_eq]
      rfl
  | refreshTools | connected =>
      show (refreshTools config _).link = _
      rw [refresh_tools_eq]
      rfl
  | call =>
      show (rpc bridge _).link = _
      rw [rpc_eq]
      rfl
  | task =>
      unfold fire
      dsimp only
      split
      · rfl
      · rw [run_task_eq]
        rfl
  | data i chunk => exact link_handle_data bridge chunk

/-- A step does to the sockets what its event does. -/
theorem link_step {event : Event} (hstep : step config bridge event = some next) :
    next.link = bridge.linkAfter event := by
  obtain ⟨_, rfl⟩ := step_eq_some.mp hstep
  exact link_fire event

/-- A bridge without a registry, and a host that sends nothing that can be parsed. -/
def silentConfig : Config Unit Unit where
  json _ := none
  message _ := none
  typed _ _ h := by cases h
  readsManifests _ := true
  toolEntries _ := []
  hasRegistry := false

end CorvidNano.Server.RustBridge
