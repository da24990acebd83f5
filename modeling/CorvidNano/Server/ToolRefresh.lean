import CorvidNano.Server.Reassembly

/-!
# Refreshes of the tools of the TypeScript bridge

A notification changes the tools at once, a response of `plugin.tools` only when its continuation
runs. `drained_foldl` says when the continuations of a chunk could as well have run after each of
its lines, and `tools_consistent` what follows: the collections of tools agree in every state, a
notification replaces the tools of one plugin, and what the lines do depends on the lines only.
-/

namespace CorvidNano.Server.ToolRefresh

open Microtasks PendingCalls Reassembly RustBridge Runs Sockets Tools

variable {Schema Value : Type}

section Conditions

variable (config : Config Schema Value) (owner : String → String)

/-- A notification registers tools that its plugin owns, and no continuation is due that registers
tools of the plugin. -/
def NotificationApart (bridge : PluginBridge Schema Value)
    (notification : JsonRpcNotification Schema) : Prop :=
  ∀ registration ∈ notification.registration,
    OwnsAll owner registration.1 registration.2 ∧
      ∀ entry ∈ entriesOf config bridge.tasks, entry.pluginId ≠ registration.1

/-- A response is not one to a request that a continuation is still to send, and the plugins own
the tools that it lists. -/
def ResponseApart (bridge : PluginBridge Schema Value) (response : JsonRpcResponse Value) : Prop :=
  ∀ id ∈ response.id,
    (id < bridge.calls.nextId ∨ requests config bridge.tasks = 0) ∧
      (bridge.calls.awaiter? id = some .tools → response.isError = false →
        OwnsEntries owner (config.toolEntries response.result))

/-- What is required of a message when some continuations are due. -/
def MessageApart (bridge : PluginBridge Schema Value) : Message Schema Value → Prop
  | .notification notification => NotificationApart config owner bridge notification
  | .response response => ResponseApart config owner bridge response

/-- No line of a chunk depends on the continuations of those before it. -/
def Permitted : PluginBridge Schema Value → Event → Prop :=
  InChunk config (MessageApart config owner)

instance (pluginId : String) (rawTools : List (WireToolInfo Schema)) :
    Decidable (OwnsAll owner pluginId rawTools) :=
  inferInstanceAs (Decidable (∀ rawTool ∈ rawTools, _))

instance (entries : List (Entry Schema)) : Decidable (OwnsEntries owner entries) :=
  inferInstanceAs (Decidable (∀ entry ∈ entries, _))

instance (bridge : PluginBridge Schema Value) (message : Message Schema Value) :
    Decidable (MessageApart config owner bridge message) :=
  match message with
  | .notification notification =>
      inferInstanceAs (Decidable (∀ registration ∈ notification.registration, _))
  | .response response => inferInstanceAs (Decidable (∀ id ∈ response.id, _))

instance (bridge : PluginBridge Schema Value) (event : Event) :
    Decidable (Permitted config owner bridge event) :=
  decidableInChunk config (MessageApart config owner) bridge event

end Conditions

variable {config : Config Schema Value} {owner : String → String}
  {bridge next : PluginBridge Schema Value}

/-- The collections agree, every tool is owned by its plugin, and so are those that a continuation
is to register. -/
structure Guarded (config : Config Schema Value) (owner : String → String)
    (bridge : PluginBridge Schema Value) : Prop where
  agree : Agree bridge.tools
  owned : Owned owner bridge.tools
  entries : OwnsEntries owner (entriesOf config bridge.tasks)

/-- The set of a plugin and its entries are those of a list of tools, and those of every other
plugin are unchanged. -/
def Replaced (owner : String → String) (before after : ToolSets Schema) (pluginId : String)
    (rawTools : List (WireToolInfo Schema)) : Prop :=
  after.byPlugin pluginId =
      (rawTools.map fun rawTool => toolName pluginId rawTool.name).toFinset ∧
    (∀ name, owner name = pluginId → after.registry name = entryOf pluginId rawTools name) ∧
    ∀ other ≠ pluginId, SameFor owner other after before

/-! ## What a line keeps -/

/-- What a response that is accepted makes due. -/
theorem entries_of_resume (awaiter : Awaiter) (result : Value) :
    entriesOf config (awaiter.resume result) =
      if awaiter = .tools then config.toolEntries result else [] := by
  cases awaiter <;> simp [Awaiter.resume, entriesOf]

theorem guarded_handle_message (h : Guarded config owner bridge) {message : Message Schema Value}
    (hapart : MessageApart config owner bridge message) :
    Guarded config owner (handleMessage config bridge message) := by
  cases message with
  | notification notification =>
      unfold handleMessage handleNotification
      dsimp only
      split
      · rename_i pluginId rawTools hregistration
        obtain ⟨hraw, _⟩ := hapart _ hregistration
        rw [on_registry_eq]
        refine ⟨?_, ?_, h.entries⟩
        · dsimp only
          split
          · exact agree_refresh h.agree h.owned pluginId rawTools
          · exact h.agree
        · dsimp only
          split
          · exact owned_refresh h.owned hraw
          · exact h.owned
      · exact h
  | response response =>
      unfold handleMessage handleResponse
      dsimp only
      split
      · exact h
      · rename_i id hid
        split
        · exact h
        · rename_i awaiter hawaiter
          refine ⟨h.agree, h.owned, ?_⟩
          dsimp only
          rw [entries_of_append]
          intro entry hentry
          rcases List.mem_append.mp hentry with hentry | hentry
          · exact h.entries entry hentry
          · split at hentry
            · cases hentry
            · rename_i herror
              rw [entries_of_resume] at hentry
              split at hentry
              · rename_i htools
                rw [htools] at hawaiter
                exact (hapart id hid).2 hawaiter (by simpa using herror) entry hentry
              · cases hentry

/-- How lines are put together does not matter for the tools. -/
theorem guarded_with (h : Guarded config owner bridge) (buffer : JsString)
    (handled : List JsString) : Guarded config owner { bridge with buffer, handled } :=
  ⟨h.agree, h.owned, h.entries⟩

/-- The record of the lines has no effect. -/
theorem message_apart_with {message : Message Schema Value}
    (h : MessageApart config owner bridge message) (handled : List JsString) :
    MessageApart config owner { bridge with handled } message := by
  cases message with
  | notification notification => exact h
  | response response => exact h

theorem guarded_handle_line (h : Guarded config owner bridge) {line : JsString}
    (hapart : ∀ message ∈ message? config line, MessageApart config owner bridge message) :
    Guarded config owner (handleLine config bridge line) := by
  rw [handle_line_elim]
  cases hmessage : message? config line with
  | none => exact ⟨h.agree, h.owned, h.entries⟩
  | some message =>
      have hparsed := message_apart_with (hapart message hmessage) (bridge.handled ++ parsed [line])
      exact guarded_handle_message (guarded_with h bridge.buffer _) hparsed

/-- The lines of a chunk up to any of them. -/
theorem guarded_foldl (h : Guarded config owner bridge) {front back : List JsString}
    (hapart : EachMessage config (MessageApart config owner) bridge (front ++ back)) :
    Guarded config owner (front.foldl (handleLine config) bridge) ∧
      EachMessage config (MessageApart config owner) (front.foldl (handleLine config) bridge) back := by
  induction front generalizing bridge with
  | nil => exact ⟨h, hapart⟩
  | cons line rest ih => exact ih (guarded_handle_line h hapart.1) hapart.2

theorem guarded_run_task {task : Microtask Value} {tasks : List (Microtask Value)}
    (htasks : bridge.tasks = task :: tasks) (h : Guarded config owner bridge) :
    Guarded config owner (runTask config { bridge with tasks } task) := by
  have hentries := h.entries
  rw [htasks, ← List.singleton_append, entries_of_append] at hentries
  have hrest : OwnsEntries owner (entriesOf config tasks) :=
    fun entry hentry => hentries entry (List.mem_append_right _ hentry)
  cases task with
  | manifestsResolved result =>
      unfold runTask
      dsimp only
      split
      · refine ⟨h.agree, h.owned, ?_⟩
        simpa [entriesOf] using hrest
      · exact ⟨h.agree, h.owned, hrest⟩
  | manifestsListed =>
      unfold runTask
      dsimp only
      rw [rpc_eq]
      exact ⟨h.agree, h.owned, hrest⟩
  | toolsResolved result =>
      have hresult : OwnsEntries owner (config.toolEntries result) := by
        refine fun entry hentry => hentries entry (List.mem_append_left _ ?_)
        simpa [entriesOf] using hentry
      unfold runTask
      dsimp only
      rw [on_registry_eq]
      refine ⟨?_, ?_, hrest⟩
      · dsimp only
        split
        · exact agree_register_entries h.agree _
        · exact h.agree
      · dsimp only
        split
        · exact owned_register_entries h.owned hresult
        · exact h.owned

/-- Only chunks and continuations bring new tools. -/
theorem guarded_other_step {event : Event} (h : Guarded config owner bridge)
    (htask : event ≠ .task) (hdata : ∀ i chunk, event ≠ .data i chunk)
    (hstep : step config bridge event = some next) : Guarded config owner next := by
  obtain ⟨hagree, howned⟩ : Agree next.tools ∧ Owned owner next.tools := by
    refine @tools_step _ _ _ _ _ (fun tools => Agree tools ∧ Owned owner tools) _ ?_ ?_ ?_
      ⟨h.agree, h.owned⟩ hstep
    · exact fun _ tools htools => ⟨agree_unregister_all htools.1, owned_unregister_all⟩
    · exact fun i chunk _ _ _ _ _ _ hevent => absurd hevent (hdata i chunk)
    · exact fun _ _ hevent => absurd hevent htask
  refine ⟨hagree, howned, ?_⟩
  rw [Microtasks.tasks_step htask hdata hstep]
  exact h.entries

theorem guarded_step {event : Event} (h : Guarded config owner bridge)
    (hpermitted : Permitted config owner bridge event)
    (hstep : step config bridge event = some next) : Guarded config owner next := by
  cases event with
  | data i chunk =>
      obtain ⟨_, rfl⟩ := step_data_eq_some.mp hstep
      unfold handleData
      dsimp only
      split
      · exact ⟨h.agree, h.owned, h.entries⟩
      · rename_i hlength
        have hapart := hpermitted (Nat.le_of_not_lt hlength)
        rw [← List.append_nil (Lines.split newline (bridge.buffer ++ chunk)).1] at hapart
        exact (guarded_foldl (guarded_with h _ bridge.handled) hapart).1
  | task =>
      obtain ⟨task, tasks, htasks, rfl⟩ := step_task_eq_some.mp hstep
      exact guarded_run_task htasks h
  | connect | disconnect | refreshTools | call | reconnect | timeout | connected | errored | ended
  | closed => exact guarded_other_step h (by simp) (by simp) hstep

theorem guarded_new : Guarded config owner .new where
  agree := agree_empty
  owned := owned_empty
  entries entry h := by cases h

theorem guarded_run {events : List Event}
    (hrun : run (restrict (step config) (Permitted config owner)) .new events = some bridge) :
    Guarded config owner bridge :=
  run_restrict_invariant guarded_step guarded_new hrun

/-- A notification replaces the tools of its plugin, and no others. -/
theorem replaced_handle_line (h : Guarded config owner bridge) {line : JsString}
    {notification : JsonRpcNotification Schema} {pluginId : String}
    {rawTools : List (WireToolInfo Schema)} (hregistry : config.hasRegistry = true)
    (hmessage : message? config line = some (.notification notification))
    (hregistration : notification.registration = some (pluginId, rawTools))
    (hraw : OwnsAll owner pluginId rawTools) :
    Replaced owner bridge.tools (handleLine config bridge line).tools pluginId rawTools := by
  have htools : (handleLine config bridge line).tools =
      refreshPluginTools bridge.tools pluginId rawTools := by
    rw [handle_line_elim, hmessage, Option.elim_some, handleMessage, handleNotification,
      hregistration]
    dsimp only
    rw [on_registry_eq, if_pos hregistry]
  rw [htools]
  obtain ⟨hset, hentries⟩ := refresh_eq h.agree h.owned rawTools
  exact ⟨hset, hentries, fun other hne => same_for_refresh h.owned hraw hne⟩

/-! ## Chunks -/

/-- The continuations that are due may run before a message is handled. -/
theorem drained_handle_message (h : Guarded config owner bridge) {message : Message Schema Value}
    (hapart : MessageApart config owner bridge message) :
    drained config (handleMessage config bridge message) =
      drained config (handleMessage config (drained config bridge) message) := by
  cases message with
  | notification notification =>
      unfold handleMessage handleNotification
      dsimp only
      split
      · rename_i pluginId rawTools hregistration
        obtain ⟨hraw, hothers⟩ := hapart _ hregistration
        rw [on_registry_eq, on_registry_eq]
        refine Eq.trans ?_ (drained_of_nil rfl).symm
        by_cases hregistry : config.hasRegistry = true
        · have hcomm := refresh_register_entries h.owned hraw h.entries hothers
          simp only [drained, hregistry, if_true, hcomm]
        · simp only [drained, if_neg hregistry]
      · exact (drained_of_nil rfl).symm
  | response response =>
      cases hid : response.id with
      | none =>
          simp only [handleMessage, handleResponse, hid]
          exact (drained_of_nil rfl).symm
      | some id =>
          obtain ⟨hsent, _⟩ := hapart id hid
          -- The request is older than those that the continuations send.
          have hawaiter : (drained config bridge).calls.awaiter? id = bridge.calls.awaiter? id := by
            unfold drained
            dsimp only
            split
            · rcases hsent with hlt | hzero
              · exact awaiter_send_tools hlt _
              · rw [hzero]
                rfl
            · rfl
          have hfinish : response.finish (drained config bridge).calls id =
              if bridge.link.connected then
                sendTools (response.finish bridge.calls id) (requests config bridge.tasks)
              else response.finish bridge.calls id := by
            unfold drained
            dsimp only
            split
            · rcases hsent with hlt | hzero
              · exact finish_send_tools hlt response _
              · rw [hzero]
                rfl
            · rfl
          simp only [handleMessage, handleResponse, hid, hawaiter]
          cases bridge.calls.awaiter? id with
          | none => exact (drained_of_nil rfl).symm
          | some awaiter =>
              dsimp only
              rw [hfinish]
              generalize (if response.isError then [] else awaiter.resume response.result) = tasks
              by_cases hconnected : bridge.link.connected = true
              · by_cases hregistry : config.hasRegistry = true
                · simp [drained, hconnected, hregistry, send_tools_add, register_entries_append]
                · simp [drained, hconnected, hregistry, send_tools_add]
              · by_cases hregistry : config.hasRegistry = true
                · simp [drained, hconnected, hregistry, register_entries_append]
                · simp [drained, hconnected, hregistry]

/-- The continuations that are due may run before a line is handled. -/
theorem drained_handle_line (h : Guarded config owner bridge) {line : JsString}
    (hapart : ∀ message ∈ message? config line, MessageApart config owner bridge message) :
    drained config (handleLine config bridge line) =
      drained config (handleLine config (drained config bridge) line) := by
  rw [handle_line_elim, handle_line_elim]
  cases hmessage : message? config line with
  | none => exact (drained_of_nil rfl).symm
  | some message =>
      have hparsed := message_apart_with (hapart message hmessage) (bridge.handled ++ parsed [line])
      exact drained_handle_message (guarded_with h bridge.buffer _) hparsed

/-- The bridge without the parts that only put lines together. -/
def forget (bridge : PluginBridge Schema Value) : PluginBridge Schema Value :=
  { bridge with buffer := [], handled := [] }

/-- A line that comes alone, with the continuations that it leads to. -/
def afterLine (config : Config Schema Value) (bridge : PluginBridge Schema Value)
    (line : JsString) : PluginBridge Schema Value :=
  forget (drained config (handleLine config bridge line))

theorem forget_handle_message (bridge : PluginBridge Schema Value) (buffer : JsString)
    (handled : List JsString) (message : Message Schema Value) :
    forget (handleMessage config { bridge with buffer, handled } message) =
      forget (handleMessage config bridge message) := by
  cases message with
  | notification notification =>
      unfold handleMessage handleNotification
      dsimp only
      split
      · rw [on_registry_eq, on_registry_eq]
        rfl
      · rfl
  | response response =>
      unfold handleMessage handleResponse
      dsimp only
      split
      · rfl
      · split <;> rfl

/-- How lines are put together has no effect on what a line does. -/
theorem forget_handle_line (bridge : PluginBridge Schema Value) (line : JsString) :
    forget (handleLine config (forget bridge) line) = forget (handleLine config bridge line) := by
  rw [handle_line_elim, handle_line_elim]
  cases message? config line with
  | none => rfl
  | some message =>
      exact (forget_handle_message bridge [] _ message).trans
        (forget_handle_message bridge bridge.buffer _ message).symm

/-- A chunk does what its lines do one by one. -/
theorem drained_foldl (h : Guarded config owner bridge) {lines : List JsString}
    (hapart : EachMessage config (MessageApart config owner) bridge lines) :
    forget (drained config (lines.foldl (handleLine config) bridge)) =
      lines.foldl (afterLine config) (forget (drained config bridge)) := by
  induction lines generalizing bridge with
  | nil => rfl
  | cons line rest ih =>
      rw [List.foldl_cons, List.foldl_cons, ih (guarded_handle_line h hapart.1) hapart.2]
      congr 1
      calc forget (drained config (handleLine config bridge line))
          = drained config (forget (handleLine config (drained config bridge) line)) := by
            rw [drained_handle_line h hapart.1]
            rfl
        _ = drained config (forget (handleLine config (forget (drained config bridge)) line)) := by
            rw [forget_handle_line]
        _ = afterLine config (forget (drained config bridge)) line := rfl

/-- Blank lines have no effect. -/
theorem foldl_parsed (h : bridge.tasks = []) (lines : List JsString) :
    lines.foldl (afterLine config) (forget bridge) =
      (parsed lines).foldl (afterLine config) (forget bridge) := by
  induction lines generalizing bridge with
  | nil => rfl
  | cons line rest ih =>
      by_cases hblank : isBlank line = true
      · have hsame : afterLine config (forget bridge) line = forget bridge := by
          rw [afterLine, handleLine, if_pos hblank, drained_of_nil (by exact h)]
          rfl
        have hparsed : parsed (line :: rest) = parsed rest := by simp [parsed, hblank]
        rw [List.foldl_cons, hsame, hparsed]
        exact ih h
      · have hparsed : parsed (line :: rest) = line :: parsed rest := by simp [parsed, hblank]
        rw [List.foldl_cons, hparsed, List.foldl_cons]
        exact @ih (afterLine config (forget bridge) line) rfl

/-! ## The tools and the lines -/

/-- The event loop delivers a chunk of the socket or runs a continuation. -/
def Delivers (i : Nat) : Event → Prop
  | .data j _ => j = i
  | .task => True
  | _ => False

/-- Since the start, the bridge has handled some lines and is where they lead to one by one, except
that its socket is not open any more if too much has come. -/
def Follows (config : Config Schema Value) (i : Nat) (start bridge : PluginBridge Schema Value) :
    Prop :=
  ∃ lines, bridge.handled = start.handled ++ lines ∧
    forget { drained config bridge with link := start.link } =
      lines.foldl (afterLine config) (forget start) ∧
    (bridge.link = start.link ∨ bridge.tasks = [] ∧ bridge.link.phase i ≠ .opened)

theorem follows_step {start : PluginBridge Schema Value} {i : Nat} {event : Event}
    (hready : Ready i start) (hdelivers : Delivers i event) (hguarded : Guarded config owner bridge)
    (h : Follows config i start bridge) (hpermitted : Permitted config owner bridge event)
    (hstep : step config bridge event = some next) : Follows config i start next := by
  obtain ⟨lines, hhandled, hforget, hlink⟩ := h
  cases event with
  | task =>
      have hlink : bridge.link = start.link := hlink.resolve_right fun hend => by
        obtain ⟨task, tasks, htasks, _⟩ := step_task_eq_some.mp hstep
        rw [hend.1] at htasks
        cases htasks
      rw [← drained_step hstep] at hforget
      obtain ⟨task, tasks, htasks, rfl⟩ := step_task_eq_some.mp hstep
      refine ⟨lines, ?_, hforget, .inl ?_⟩
      · rw [run_task_eq]
        exact hhandled
      · rw [run_task_eq]
        exact hlink
  | data j chunk =>
      obtain rfl := hdelivers
      obtain ⟨⟨hnil, hopen⟩, rfl⟩ := step_data_eq_some.mp hstep
      have hlink : bridge.link = start.link := hlink.resolve_right fun hend => hend.2 hopen
      rw [drained_of_nil hnil, ← hlink] at hforget
      unfold handleData
      dsimp only
      split
      · refine ⟨lines, hhandled, ?_, .inr ⟨hnil, ?_⟩⟩
        · rw [drained_of_nil (by exact hnil), ← hforget, hlink]
          rfl
        · dsimp only
          rw [hlink, phase_destroy_socket, if_pos ⟨hready.socket, by rw [hready.phase]; rfl⟩]
          simp
      · rename_i hlength
        have hapart := hpermitted (Nat.le_of_not_lt hlength)
        refine ⟨lines ++ parsed (Lines.split newline (bridge.buffer ++ chunk)).1, ?_, ?_,
          .inl ?_⟩
        · rw [foldl_handle_line_eq]
          dsimp only
          rw [hhandled, List.append_assoc]
        · have hsame := drained_foldl (guarded_with hguarded _ bridge.handled) hapart
          have hstart := @drained_of_nil _ _ config
            { bridge with buffer := (Lines.split newline (bridge.buffer ++ chunk)).2 } hnil
          rw [hstart, foldl_parsed (by exact hnil)] at hsame
          rw [List.foldl_append, ← hforget, ← hlink]
          refine Eq.trans ?_ hsame
          rw [foldl_handle_line_eq]
          rfl
        · rw [foldl_handle_line_eq]
          exact hlink
  | connect | disconnect | refreshTools | call | reconnect | timeout | connected | errored | ended
  | closed => cases hdelivers

/-- The bridge is where the lines lead to one by one. -/
theorem follows_run {start : PluginBridge Schema Value} {i : Nat} {events : List Event}
    (hready : Ready i start) (hguarded : Guarded config owner start)
    (hdelivers : ∀ event ∈ events, Delivers i event)
    (hrun : run (restrict (step config) (Permitted config owner)) start events = some bridge) :
    Follows config i start bridge := by
  have hstart : Follows config i start start :=
    ⟨[], (List.append_nil _).symm, by rw [drained_of_nil hready.tasks]; rfl, .inl rfl⟩
  have hboth : Guarded config owner bridge ∧ Follows config i start bridge := by
    refine @run_events_invariant _ _ _
      (fun bridge => Guarded config owner bridge ∧ Follows config i start bridge) _ ?_ _ _
      ⟨hguarded, hstart⟩ hrun
    intro before event after hmem h hnext
    obtain ⟨hpermitted, hstep⟩ := restrict_eq_some.mp hnext
    exact ⟨guarded_step h.1 hpermitted hstep,
      follows_step hready (hdelivers event hmem) h.1 h.2 hpermitted hstep⟩
  exact hboth.2

/-- Two deliveries of the same lines lead to the same tools and calls, and to the same sockets as
long as not too much has come. -/
theorem same_of_handled {start one two : PluginBridge Schema Value} {i : Nat}
    (hone : Follows config i start one) (htwo : Follows config i start two)
    (honeTasks : one.tasks = []) (htwoTasks : two.tasks = [])
    (hhandled : one.handled = two.handled) :
    { one with buffer := two.buffer, link := two.link } = two ∧
      (one.link.phase i = .opened → two.link.phase i = .opened → one.link = two.link) := by
  obtain ⟨first, hfirst, honeSame, honeLink⟩ := hone
  obtain ⟨second, hsecond, htwoSame, htwoLink⟩ := htwo
  rw [drained_of_nil honeTasks] at honeSame
  rw [drained_of_nil htwoTasks] at htwoSame
  have hlines : first = second := by
    rw [hfirst, hsecond] at hhandled
    exact List.append_cancel_left hhandled
  rw [hlines, ← htwoSame] at honeSame
  have hcalls := congrArg PluginBridge.calls honeSame
  have htools := congrArg PluginBridge.tools honeSame
  constructor
  · obtain ⟨link, buffer, calls, tools, tasks, handled⟩ := one
    obtain ⟨otherLink, otherBuffer, otherCalls, otherTools, otherTasks, otherHandled⟩ := two
    simp only [forget] at hcalls htools honeTasks htwoTasks hhandled ⊢
    rw [hcalls, htools, honeTasks, htwoTasks, hhandled]
  · intro honeOpen htwoOpen
    rw [honeLink.resolve_right fun hend => hend.2 honeOpen,
      htwoLink.resolve_right fun hend => hend.2 htwoOpen]

/-- In every run in which no two plugins have tools with one name, and no line of a chunk depends
on the continuations of those before it: the registry, `registeredTools` and the sets of the
plugins have the same tools in every state, every notification of a chunk replaces the tools of its
plugin and of no other one, and two ways to deliver the same lines lead to the same tools. They
lead to the same state if the sockets are still open and the same part of a line is left over, so
that whatever comes next finds no difference. -/
theorem tools_consistent {events : List Event}
    (hrun : run (restrict (step config) (Permitted config owner)) .new events = some bridge) :
    Agree bridge.tools ∧
      (∀ i chunk front line back notification pluginId rawTools,
        (bridge.buffer ++ chunk).length ≤ maxBufferBytes →
        Permitted config owner bridge (.data i chunk) →
        (Lines.split newline (bridge.buffer ++ chunk)).1 = front ++ line :: back →
        config.hasRegistry = true →
        message? config line = some (.notification notification) →
        notification.registration = some (pluginId, rawTools) →
          let before := front.foldl (handleLine config)
            { bridge with buffer := (Lines.split newline (bridge.buffer ++ chunk)).2 }
          Replaced owner before.tools (handleLine config before line).tools pluginId rawTools) ∧
      ∀ i first second one two, Ready i bridge → (∀ event ∈ first, Delivers i event) →
        (∀ event ∈ second, Delivers i event) →
        run (restrict (step config) (Permitted config owner)) bridge first = some one →
        run (restrict (step config) (Permitted config owner)) bridge second = some two →
        one.tasks = [] → two.tasks = [] → one.handled = two.handled →
          one.tools = two.tools ∧
            (one.link.phase i = .opened → two.link.phase i = .opened →
              one.buffer = two.buffer → one = two) := by
  have hguarded := guarded_run hrun
  refine ⟨hguarded.agree, ?_, ?_⟩
  · intro i chunk front line back notification pluginId rawTools hlength hpermitted hlines hregistry
      hmessage hregistration
    have hapart := hpermitted hlength
    rw [hlines] at hapart
    obtain ⟨hbefore, hline⟩ := guarded_foldl (guarded_with hguarded _ bridge.handled) hapart
    have hraw : OwnsAll owner pluginId rawTools := (hline.1 _ hmessage _ hregistration).1
    exact replaced_handle_line hbefore hregistry hmessage hregistration hraw
  · intro i first second one two hready hfirst hsecond hone htwo honeTasks htwoTasks hhandled
    obtain ⟨hsame, hlink⟩ := same_of_handled (follows_run hready hguarded hfirst hone)
      (follows_run hready hguarded hsecond htwo) honeTasks htwoTasks hhandled
    have htools := congrArg PluginBridge.tools hsame
    refine ⟨htools, fun honeOpen htwoOpen hbuffer => ?_⟩
    rw [← hsame, ← hbuffer, ← hlink honeOpen htwoOpen]

/-- A host that answers the first two requests and then takes the tool of its plugin away. -/
def listingConfig : Config Unit JsString where
  json line := if line ∈ ([[49], [50], [51]] : List JsString) then some line else none
  message value :=
    if value = [49] then some (.response { result := [], error := .falsy, id := some 1 })
    else if value = [50] then some (.response { result := [], error := .falsy, id := some 2 })
    else if value = [51] then
      some (.notification
        { event := "plugin.tools_registered", pluginId := some "p", tools := some [] })
    else none
  typed line value h := by
    split at h
    · rename_i hline
      cases h
      simp only [List.mem_cons, List.not_mem_nil, or_false] at hline
      rcases hline with rfl | rfl | rfl <;> rfl
    · cases h
  readsManifests _ := true
  toolEntries _ :=
    [{ pluginId := "p", tool := { name := "t", description := "", inputSchema := () } }]
  hasRegistry := true

/-- The response and the notification in chunks of their own, and in pieces. -/
theorem separate_chunks_consistent :
    ∃ bridge one two,
      run (restrict (step listingConfig) (Permitted listingConfig fun _ => "p")) .new
        [.connect, .connected 0, .data 0 [49, 10], .task, .task] = some bridge ∧
      run (restrict (step listingConfig) (Permitted listingConfig fun _ => "p")) bridge
        [.data 0 [50, 10], .task, .data 0 [51, 10]] = some one ∧
      run (restrict (step listingConfig) (Permitted listingConfig fun _ => "p")) bridge
        [.data 0 [50], .data 0 [10], .task, .data 0 [51], .data 0 [10]] = some two ∧
      Agree bridge.tools ∧ one = two := by
  obtain ⟨bridge, one, two, hrun, hone, htwo, hready, honeTasks, htwoTasks, hhandled, honeOpen,
      htwoOpen, hbuffer⟩ :
      ∃ bridge one two,
        run (restrict (step listingConfig) (Permitted listingConfig fun _ => "p")) .new
          [.connect, .connected 0, .data 0 [49, 10], .task, .task] = some bridge ∧
        run (restrict (step listingConfig) (Permitted listingConfig fun _ => "p")) bridge
          [.data 0 [50, 10], .task, .data 0 [51, 10]] = some one ∧
        run (restrict (step listingConfig) (Permitted listingConfig fun _ => "p")) bridge
          [.data 0 [50], .data 0 [10], .task, .data 0 [51], .data 0 [10]] = some two ∧
        Ready 0 bridge ∧ one.tasks = [] ∧ two.tasks = [] ∧ one.handled = two.handled ∧
        one.link.phase 0 = .opened ∧ two.link.phase 0 = .opened ∧ one.buffer = two.buffer :=
    ⟨_, _, _, rfl, rfl, rfl, ⟨rfl, rfl, rfl⟩, rfl, rfl, rfl, rfl, rfl, rfl⟩
  obtain ⟨hagree, _, hdeliveries⟩ := tools_consistent hrun
  refine ⟨bridge, one, two, hrun, hone, htwo, hagree, ?_⟩
  obtain ⟨_, hsame⟩ := hdeliveries 0 _ _ one two hready (by simp [Delivers]) (by simp [Delivers])
    hone htwo honeTasks htwoTasks hhandled
  exact hsame honeOpen htwoOpen hbuffer

/-- The same lines in one chunk: the tool that was taken away comes back. -/
theorem one_chunk_other_tools :
    ∃ bridge one two,
      run (step listingConfig) .new [.connect, .connected 0, .data 0 [49, 10], .task, .task] =
          some bridge ∧
        run (step listingConfig) bridge [.data 0 [50, 10, 51, 10], .task] = some one ∧
        run (step listingConfig) bridge [.data 0 [50, 10], .task, .data 0 [51, 10]] = some two ∧
        one.tasks = [] ∧ two.tasks = [] ∧ one.handled = two.handled ∧
        one.tools.registered = {toolName "p" "t"} ∧ two.tools.registered = ∅ :=
  ⟨_, _, _, rfl, rfl, rfl, rfl, rfl, rfl, rfl, rfl⟩

end CorvidNano.Server.ToolRefresh
