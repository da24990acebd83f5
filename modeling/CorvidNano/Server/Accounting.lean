import CorvidNano.Server.RustBridge

/-!
# Accounting of the calls of the TypeScript bridge

Every event keeps the books of `PendingCalls`: no promise is settled twice, and each is settled by
its own response, by its own timer or by the end of a connection. `pending` has exactly the calls
that were sent and not settled as long as no response takes its call out of the map and fails to
settle it. `calls_accounted_iff` says so of runs, in both directions.
-/

namespace CorvidNano.Server.Accounting

open PendingCalls RustBridge Runs

variable {Schema Value : Type}

/-- The reason for which a promise may be settled: a response with its id in a line that was
parsed, the timer of the call, the `close` event of a socket, or a call of `disconnect`. -/
def Reason (config : Config Schema Value) (past : List Event) (handled : List JsString) :
    Nat × Outcome (JsonRpcResponse Value) → Prop
  | (id, .answered response) =>
      response.id = some id ∧ ∃ line ∈ handled, config.parse line = some (.response response)
  | (id, .timedOut) => .timeout id ∈ past
  | (_, .socketClosed) => ∃ i, .closed i ∈ past
  | (_, .disconnected) => .disconnect ∈ past

/-- What the calls are to satisfy after some events: every promise was settled at most once and for
a reason, and the map has the calls that were sent and not settled, so that none is left when a
connection has ended. -/
structure Balanced (config : Config Schema Value) (past : List Event)
    (bridge : PluginBridge Schema Value) : Prop where
  settled_nodup : (ids bridge.calls.settled).Nodup
  reasons : ∀ entry ∈ bridge.calls.settled, Reason config past bridge.handled entry
  sent_nodup : bridge.calls.sent.Nodup
  pending_nodup : (ids bridge.calls.pending).Nodup
  pending_iff : ∀ id, id ∈ ids bridge.calls.pending ↔
    id ∈ bridge.calls.sent ∧ id ∉ ids bridge.calls.settled
  timers_iff : ∀ id, id ∈ bridge.calls.timers ↔ id ∈ ids bridge.calls.pending
  closed : ∀ event next, step config bridge event = some next →
    (event = .disconnect ∨ ∃ i, event = .closed i) → next.calls.pending = []

/-- If the message is a response to a pending call, its error has a text or there is none. -/
def Readable (bridge : PluginBridge Schema Value) : Message Schema Value → Prop
  | .notification _ => True
  | .response response =>
      ∀ id ∈ response.id, id ∈ ids bridge.calls.pending → response.error ≠ .noText

instance (bridge : PluginBridge Schema Value) (message : Message Schema Value) :
    Decidable (Readable bridge message) :=
  match message with
  | .notification _ => inferInstanceAs (Decidable True)
  | .response response => inferInstanceAs (Decidable (∀ id ∈ response.id, _))

/-- No line of a chunk is a response to a pending call with an error that has no text. -/
def Permitted (config : Config Schema Value) : PluginBridge Schema Value → Event → Prop :=
  InChunk config Readable

instance (config : Config Schema Value) (bridge : PluginBridge Schema Value) (event : Event) :
    Decidable (Permitted config bridge event) :=
  decidableInChunk config Readable bridge event

variable {config : Config Schema Value} {bridge next : PluginBridge Schema Value}

/-- A reason stays one. -/
theorem Reason.mono {past more : List Event} {handled others : List JsString}
    {entry : Nat × Outcome (JsonRpcResponse Value)} (h : Reason config past handled entry)
    (hmore : past ⊆ more) (hothers : handled ⊆ others) : Reason config more others entry := by
  obtain ⟨id, outcome⟩ := entry
  cases outcome with
  | answered response =>
      obtain ⟨hid, line, hline, hparse⟩ := h
      exact ⟨hid, line, hothers hline, hparse⟩
  | timedOut => exact hmore h
  | socketClosed =>
      obtain ⟨i, hi⟩ := h
      exact ⟨i, hmore hi⟩
  | disconnected => exact hmore h

/-! ## What an event does to the calls -/

theorem calls_rpc (awaiter : Awaiter) :
    (rpc bridge awaiter).calls = bridge.calls ∨
      (rpc bridge awaiter).calls = bridge.calls.send awaiter := by
  unfold rpc
  split
  · exact .inr rfl
  · exact .inl rfl

theorem calls_refresh_tools :
    (refreshTools config bridge).calls = bridge.calls ∨
      (refreshTools config bridge).calls = bridge.calls.send .manifests := by
  unfold refreshTools
  split
  · have hcalls := @calls_rpc _ _ (config.onRegistry Tools.unregisterAllTools bridge) .manifests
    rw [on_registry_eq] at hcalls ⊢
    exact hcalls
  · exact .inl rfl

theorem calls_run_task (task : Microtask Value) :
    (runTask config bridge task).calls = bridge.calls ∨
      (runTask config bridge task).calls = bridge.calls.send .tools := by
  cases task with
  | manifestsResolved result =>
      refine .inl ?_
      unfold runTask
      dsimp only
      split <;> rfl
  | manifestsListed => exact calls_rpc .tools
  | toolsResolved result =>
      refine .inl ?_
      show (config.onRegistry _ bridge).calls = _
      rw [on_registry_eq]

/-- A line ends a call only if it is a response with its id, and the call is pending. -/
theorem calls_handle_line (config : Config Schema Value) (bridge : PluginBridge Schema Value)
    (line : JsString) :
    (handleLine config bridge line).calls = bridge.calls ∧
        (∀ message ∈ message? config line, Readable bridge message) ∨
      ∃ response id, message? config line = some (.response response) ∧ response.id = some id ∧
        id ∈ ids bridge.calls.pending ∧
        (handleLine config bridge line).calls = response.finish bridge.calls id := by
  rw [handle_line_elim]
  cases message? config line with
  | none => exact .inl ⟨rfl, fun message h => by cases h⟩
  | some message =>
      cases message with
      | notification notification =>
          refine .inl ⟨?_, fun message h => ?_⟩
          · show (handleNotification ..).calls = _
            unfold handleNotification
            split
            · rw [on_registry_eq]
            · rfl
          · cases h
            exact trivial
      | response response =>
          have hmessage : ∀ id, response.id = some id → id ∉ ids bridge.calls.pending →
              ∀ message ∈ some (.response response : Message Schema Value),
                Readable bridge message := by
            rintro id hid hpending _ ⟨⟩ other hother hmem
            rw [hid] at hother
            cases hother
            exact absurd hmem hpending
          unfold Option.elim handleMessage handleResponse
          dsimp only
          split
          · rename_i hid
            refine .inl ⟨rfl, fun message h => ?_⟩
            cases h
            intro id hmem
            rw [hid] at hmem
            cases hmem
          · rename_i id hid
            split
            · rename_i hawaiter
              refine .inl ⟨rfl, hmessage id hid ?_⟩
              exact fun hmem => (awaiter_ne_none_iff id).mpr hmem hawaiter
            · rename_i awaiter hawaiter
              refine .inr ⟨response, id, rfl, hid, (awaiter_ne_none_iff id).mp ?_, rfl⟩
              rw [show bridge.calls.awaiter? id = some awaiter from hawaiter]
              exact Option.some_ne_none awaiter

/-- What an event other than a chunk does to the calls: nothing, or it sends one, or a timer ends
its own call, or the end of a connection rejects all that are pending. -/
theorem calls_step {event : Event} (hdata : ∀ i chunk, event ≠ .data i chunk)
    (hstep : step config bridge event = some next) :
    next.calls = bridge.calls ∨ (∃ awaiter, next.calls = bridge.calls.send awaiter) ∨
      (∃ id ∈ bridge.calls.timers, event = .timeout id ∧
        next.calls = bridge.calls.settle id .timedOut) ∨
      (event = .disconnect ∧ next.calls = bridge.calls.rejectAll .disconnected) ∨
      ∃ i, event = .closed i ∧ next.calls = bridge.calls.rejectAll .socketClosed := by
  obtain ⟨henabled, rfl⟩ := step_eq_some.mp hstep
  cases event with
  | connect | reconnect | errored | ended => exact .inl rfl
  | refreshTools =>
      exact (@calls_refresh_tools _ _ config bridge).imp_right fun h => .inl ⟨_, h⟩
  | connected i =>
      exact (@calls_refresh_tools _ _ config
        { bridge with link := bridge.link.handleConnect i, buffer := [] }).imp_right
          fun h => .inl ⟨_, h⟩
  | call => exact (@calls_rpc _ _ bridge .caller).imp_right fun h => .inl ⟨_, h⟩
  | task =>
      unfold fire
      dsimp only
      split
      · exact .inl rfl
      · rename_i task tasks _
        exact (@calls_run_task _ _ config { bridge with tasks } task).imp_right
          fun h => .inl ⟨_, h⟩
  | timeout id =>
      simp only [PluginBridge.enabled, Bool.and_eq_true, decide_eq_true_eq] at henabled
      exact .inr (.inr (.inl ⟨id, henabled.2, rfl, rfl⟩))
  | disconnect =>
      refine .inr (.inr (.inr (.inl ⟨rfl, ?_⟩)))
      show (config.onRegistry _ _).calls = _
      rw [on_registry_eq]
  | closed i =>
      refine .inr (.inr (.inr (.inr ⟨i, rfl, ?_⟩)))
      show (config.onRegistry _ _).calls = _
      rw [on_registry_eq]
  | data i chunk => exact absurd rfl (hdata i chunk)

/-! ## The books -/

section Finish

variable {calls : Calls Awaiter (JsonRpcResponse Value)} {id : Nat}

theorem accounted_finish (h : Accounted calls) (hid : id ∈ ids calls.pending)
    (response : JsonRpcResponse Value) : Accounted (response.finish calls id) := by
  unfold JsonRpcResponse.finish
  split
  · exact accounted_delete h id
  · exact accounted_settle h (h.pending_timers id hid) _

/-- A response loses its call only if its error has no text. -/
theorem complete_finish_iff (h : Accounted calls) (hid : id ∈ ids calls.pending)
    (response : JsonRpcResponse Value) :
    Complete (response.finish calls id) ↔ Complete calls ∧ response.error ≠ .noText := by
  unfold JsonRpcResponse.finish
  split
  · rename_i herror
    exact ⟨fun hcomplete => absurd hcomplete (not_complete_delete h hid),
      fun hcomplete => absurd herror hcomplete.2⟩
  · rename_i herror
    exact ⟨fun hcomplete => ⟨complete_of_settle hid hcomplete, herror⟩,
      fun hcomplete => complete_settle hcomplete.1 id _⟩

end Finish

theorem accounted_handle_line (h : Accounted bridge.calls) (line : JsString) :
    Accounted (handleLine config bridge line).calls := by
  obtain ⟨hcalls, _⟩ | ⟨response, id, _, _, hpending, hcalls⟩ :=
    calls_handle_line config bridge line
  · rw [hcalls]
    exact h
  · rw [hcalls]
    exact accounted_finish h hpending response

theorem complete_handle_line_iff (h : Accounted bridge.calls) (line : JsString) :
    Complete (handleLine config bridge line).calls ↔
      Complete bridge.calls ∧ ∀ message ∈ message? config line, Readable bridge message := by
  obtain ⟨hcalls, hreadable⟩ | ⟨response, id, hmessage, hid, hpending, hcalls⟩ :=
    calls_handle_line config bridge line
  · rw [hcalls]
    exact ⟨fun hcomplete => ⟨hcomplete, hreadable⟩, And.left⟩
  · rw [hcalls, complete_finish_iff h hpending, hmessage]
    refine and_congr_right fun _ => ⟨?_, ?_⟩
    · rintro herror _ ⟨⟩ other _ _
      exact herror
    · exact fun hreadable => hreadable _ rfl id hid hpending

/-- The lines of a chunk lose no call exactly if none of them does. -/
theorem complete_foldl_iff (h : Accounted bridge.calls) (lines : List JsString) :
    Complete (lines.foldl (handleLine config) bridge).calls ↔
      Complete bridge.calls ∧ EachMessage config Readable bridge lines := by
  induction lines generalizing bridge with
  | nil => exact ⟨fun hcomplete => ⟨hcomplete, trivial⟩, And.left⟩
  | cons line rest ih =>
      rw [List.foldl_cons, ih (accounted_handle_line h line), complete_handle_line_iff h, and_assoc]
      rfl

theorem accounted_handle_data (h : Accounted bridge.calls) (chunk : JsString) :
    Accounted (handleData config bridge chunk).calls := by
  unfold handleData
  dsimp only
  split
  · exact h
  · exact @foldl_handle_line_invariant _ _ _ _ (fun bridge => Accounted bridge.calls) _
      (fun _ line _ hbridge => accounted_handle_line hbridge line) h

/-- Every event keeps the books. -/
theorem accounted_step {event : Event} (h : Accounted bridge.calls)
    (hstep : step config bridge event = some next) : Accounted next.calls := by
  by_cases hdata : ∀ i chunk, event ≠ .data i chunk
  · rcases calls_step hdata hstep with hcalls | ⟨awaiter, hcalls⟩ | ⟨id, htimer, _, hcalls⟩ |
      ⟨_, hcalls⟩ | ⟨_, _, hcalls⟩
    · rw [hcalls]
      exact h
    · rw [hcalls]
      exact accounted_send h awaiter
    · rw [hcalls]
      exact accounted_settle h htimer _
    · rw [hcalls]
      exact accounted_reject_all h _
    · rw [hcalls]
      exact accounted_reject_all h _
  · push Not at hdata
    obtain ⟨i, chunk, rfl⟩ := hdata
    obtain ⟨_, rfl⟩ := step_data_eq_some.mp hstep
    exact accounted_handle_data h chunk

/-- An event keeps the calls that were sent and not settled in the map exactly if it is
permitted. -/
theorem complete_step_iff {event : Event} (h : Accounted bridge.calls)
    (hcomplete : Complete bridge.calls) (hstep : step config bridge event = some next) :
    Complete next.calls ↔ Permitted config bridge event := by
  by_cases hdata : ∀ i chunk, event ≠ .data i chunk
  · have hpermitted : Permitted config bridge event := by
      cases event with
      | data i chunk => exact absurd rfl (hdata i chunk)
      | connect | disconnect | refreshTools | call | task | reconnect | timeout | connected
      | errored | ended | closed => exact trivial
    refine iff_of_true ?_ hpermitted
    rcases calls_step hdata hstep with hcalls | ⟨awaiter, hcalls⟩ | ⟨id, htimer, _, hcalls⟩ |
      ⟨_, hcalls⟩ | ⟨_, _, hcalls⟩
    · rw [hcalls]
      exact hcomplete
    · rw [hcalls]
      exact complete_send hcomplete awaiter
    · rw [hcalls]
      exact complete_settle hcomplete id _
    · rw [hcalls]
      exact complete_reject_all hcomplete _
    · rw [hcalls]
      exact complete_reject_all hcomplete _
  · push Not at hdata
    obtain ⟨i, chunk, rfl⟩ := hdata
    obtain ⟨_, rfl⟩ := step_data_eq_some.mp hstep
    unfold handleData
    dsimp only
    split
    · rename_i hlength
      exact iff_of_true hcomplete fun hfits => absurd hfits (Nat.not_le_of_lt hlength)
    · rename_i hlength
      rw [complete_foldl_iff (by exact h)]
      exact ⟨fun hall _ => hall.2, fun hall => ⟨hcomplete, hall (Nat.le_of_not_lt hlength)⟩⟩

/-! ## The reasons -/

/-- Every promise was settled for a reason. -/
def Justified (config : Config Schema Value) (past : List Event)
    (bridge : PluginBridge Schema Value) : Prop :=
  ∀ entry ∈ bridge.calls.settled, Reason config past bridge.handled entry

/-- A line settles a call only for a reason. -/
theorem justified_handle_line {past : List Event} (h : Justified config past bridge)
    (line : JsString) : Justified config past (handleLine config bridge line) := by
  have hhandled : (handleLine config bridge line).handled = bridge.handled ++ parsed [line] := by
    rw [handle_line_eq]
  have hold : ∀ entry ∈ bridge.calls.settled,
      Reason config past (handleLine config bridge line).handled entry := by
    intro entry hentry
    refine (h entry hentry).mono (List.Subset.refl _) ?_
    rw [hhandled]
    exact List.subset_append_left ..
  intro entry hentry
  obtain ⟨hcalls, _⟩ | ⟨response, id, hmessage, hid, _, hcalls⟩ :=
    calls_handle_line config bridge line
  · rw [hcalls] at hentry
    exact hold entry hentry
  · rw [hcalls] at hentry
    unfold JsonRpcResponse.finish at hentry
    split at hentry
    · exact hold entry hentry
    · rcases List.mem_append.mp hentry with hentry | hentry
      · exact hold entry hentry
      · rw [List.mem_singleton.mp hentry]
        unfold message? at hmessage
        split at hmessage
        · cases hmessage
        · rename_i hblank
          refine ⟨hid, line, ?_, hmessage⟩
          rw [hhandled]
          simp [parsed, hblank]

/-- The calls that are settled together have one reason. -/
theorem justified_reject_all {past : List Event} (h : Justified config past bridge)
    {outcome : Outcome (JsonRpcResponse Value)}
    (hreason : ∀ id, Reason config past bridge.handled (id, outcome)) :
    ∀ entry ∈ (bridge.calls.rejectAll outcome).settled,
      Reason config past bridge.handled entry := by
  intro entry hentry
  rcases List.mem_append.mp hentry with hentry | hentry
  · exact h entry hentry
  · obtain ⟨call, _, rfl⟩ := List.mem_map.mp hentry
    exact hreason call.1

/-- Only chunks bring lines. -/
theorem handled_step {event : Event} (hdata : ∀ i chunk, event ≠ .data i chunk)
    (hstep : step config bridge event = some next) : next.handled = bridge.handled := by
  obtain ⟨_, rfl⟩ := step_eq_some.mp hstep
  cases event with
  | connect | reconnect | timeout | errored | ended => rfl
  | disconnect | closed =>
      show (config.onRegistry _ _).handled = _
      rw [on_registry_eq]
  | refreshTools | connected =>
      show (refreshTools config _).handled = _
      rw [refresh_tools_eq]
  | call =>
      show (rpc bridge _).handled = _
      rw [rpc_eq]
  | task =>
      unfold fire
      dsimp only
      split
      · rfl
      · rw [run_task_eq]
  | data i chunk => exact absurd rfl (hdata i chunk)

/-- Every event settles calls only for a reason. -/
theorem justified_step {past : List Event} {event : Event} (h : Justified config past bridge)
    (hstep : step config bridge event = some next) :
    Justified config (past ++ [event]) next := by
  have hpast : Justified config (past ++ [event]) bridge := fun entry hentry =>
    (h entry hentry).mono (List.subset_append_left ..) (List.Subset.refl _)
  by_cases hdata : ∀ i chunk, event ≠ .data i chunk
  · unfold Justified
    rw [handled_step hdata hstep]
    rcases calls_step hdata hstep with hcalls | ⟨awaiter, hcalls⟩ | ⟨id, _, rfl, hcalls⟩ |
      ⟨rfl, hcalls⟩ | ⟨i, rfl, hcalls⟩
    · rw [hcalls]
      exact hpast
    · rw [hcalls]
      exact hpast
    · rw [hcalls]
      intro entry hentry
      rcases List.mem_append.mp hentry with hentry | hentry
      · exact hpast entry hentry
      · rw [List.mem_singleton.mp hentry]
        show _ ∈ _
        simp
    · rw [hcalls]
      exact justified_reject_all hpast fun id => by simp [Reason]
    · rw [hcalls]
      exact justified_reject_all hpast fun id => ⟨i, by simp⟩
  · push Not at hdata
    obtain ⟨i, chunk, rfl⟩ := hdata
    obtain ⟨_, rfl⟩ := step_data_eq_some.mp hstep
    unfold handleData
    dsimp only
    split
    · exact hpast
    · exact foldl_handle_line_invariant
        (fun bridge line _ hbridge => justified_handle_line hbridge line) hpast

/-! ## Runs -/

/-- A run accounts for its calls if those that were sent and not settled are in the map. -/
theorem balanced_iff {past : List Event} (hrun : run (step config) .new past = some bridge) :
    Balanced config past bridge ↔ Complete bridge.calls := by
  have hbooks : Accounted bridge.calls :=
    @run_invariant _ _ _ (fun bridge => Accounted bridge.calls) accounted_step _ _ _ accounted_start
      hrun
  have hreasons : Justified config past bridge := by
    have hstart : Justified config [] (.new : PluginBridge Schema Value) := fun entry hentry =>
      absurd hentry List.not_mem_nil
    exact run_history_invariant justified_step hstart hrun
  constructor
  · intro h
    exact (complete_iff hbooks).mpr h.pending_iff
  · intro hcomplete
    have hpending := (complete_iff hbooks).mp hcomplete
    refine ⟨hbooks.settled_nodup, hreasons, hbooks.sent_nodup, hbooks.pending_nodup, hpending,
      fun id => (hbooks.timers_iff id).trans (hpending id).symm, fun event next hstep hevent => ?_⟩
    obtain ⟨_, rfl⟩ := step_eq_some.mp hstep
    rcases hevent with rfl | ⟨i, rfl⟩
    · show (config.onRegistry _ _).calls.pending = []
      rw [on_registry_eq]
      rfl
    · show (config.onRegistry _ _).calls.pending = []
      rw [on_registry_eq]
      rfl

/-- A run accounts for its calls in every state that it passes through, exactly if no chunk has a
response to a pending call whose error has no text. -/
theorem calls_accounted_iff {events : List Event}
    (hrun : run (step config) .new events = some bridge) :
    (∀ past, past <+: events → ∀ passed, run (step config) .new past = some passed →
        Balanced config past passed) ↔
      run (restrict (step config) (Permitted config)) .new events = some bridge := by
  have hstart : Complete (.start : Calls Awaiter (JsonRpcResponse Value)) := fun id hid =>
    absurd hid List.not_mem_nil
  rw [← @throughout_iff_run_restrict _ _ _ _ _ (fun bridge => Accounted bridge.calls)
    (fun bridge => Complete bridge.calls) accounted_step complete_step_iff _ _ _ accounted_start
    hstart hrun]
  constructor
  · intro h past hpast passed hpassed
    exact (balanced_iff hpassed).mp (h past hpast passed hpassed)
  · intro h past hpast passed hpassed
    exact (balanced_iff hpassed).mpr (h past hpast passed hpassed)

/-- `{"id":1,"error":{"toString":1}}` and its end. -/
def noTextLine : JsString :=
  [123, 34, 105, 100, 34, 58, 49, 44, 34, 101, 114, 114, 111, 114, 34, 58, 123, 34, 116, 111, 83,
    116, 114, 105, 110, 103, 34, 58, 49, 125, 125, 10]

/-- A host that sends `1` and `2` for a result of call 1 and an error of call 2, and everything
else for an error of call 1 that has no text. -/
def answeringConfig : Config Unit JsString where
  json line := some line
  message value := some (.response
    { result := []
      error := if value = [49] then .falsy else if value = [50] then .text "busy" else .noText
      id := some (if value = [50] then 2 else 1) })
  typed _ _ _ := rfl
  readsManifests _ := true
  toolEntries _ := []
  hasRegistry := false

/-- Calls that end in each way: by a result, an error, a timer and the end of the connection. A
late response and one that comes twice settle nothing. -/
theorem each_end_accounted :
    ∃ bridge, run (step answeringConfig) .new
        [.connect, .connected 0, .call, .call, .call, .data 0 [50, 10, 49, 10, 49, 10], .timeout 3,
          .data 0 [50, 10], .call, .ended 0, .closed 0] = some bridge ∧
      ids bridge.calls.settled = [2, 1, 3, 4] ∧
      Balanced answeringConfig
        [.connect, .connected 0, .call, .call, .call, .data 0 [50, 10, 49, 10, 49, 10], .timeout 3,
          .data 0 [50, 10], .call, .ended 0, .closed 0] bridge := by
  obtain ⟨bridge, hrun, hrestrict, hsettled⟩ : ∃ bridge, run (step answeringConfig) .new
        [.connect, .connected 0, .call, .call, .call, .data 0 [50, 10, 49, 10, 49, 10], .timeout 3,
          .data 0 [50, 10], .call, .ended 0, .closed 0] = some bridge ∧
      run (restrict (step answeringConfig) (Permitted answeringConfig)) .new
        [.connect, .connected 0, .call, .call, .call, .data 0 [50, 10, 49, 10, 49, 10], .timeout 3,
          .data 0 [50, 10], .call, .ended 0, .closed 0] = some bridge ∧
      ids bridge.calls.settled = [2, 1, 3, 4] := ⟨_, rfl, rfl, rfl⟩
  exact ⟨bridge, hrun, hsettled,
    (calls_accounted_iff hrun).mpr hrestrict _ (List.prefix_refl _) bridge hrun⟩

/-- A response whose error has no text takes its call out of the map and does not settle it: not
even the end of the connection does. -/
theorem no_text_loses_call :
    ∃ opened closed, run (step answeringConfig) .new
        [.connect, .connected 0, .call, .data 0 noTextLine] = some opened ∧
      opened.calls.sent = [1] ∧ opened.calls.settled = [] ∧ opened.calls.pending = [] ∧
      ¬Balanced answeringConfig [.connect, .connected 0, .call, .data 0 noTextLine] opened ∧
      run (step answeringConfig) opened [.ended 0, .closed 0] = some closed ∧
      closed.calls.settled = [] ∧ closed.calls.timers = [1] := by
  obtain ⟨opened, closed, hrun, hsent, hsettled, hpending, hrest⟩ :
      ∃ opened closed, run (step answeringConfig) .new
          [.connect, .connected 0, .call, .data 0 noTextLine] = some opened ∧
        opened.calls.sent = [1] ∧ opened.calls.settled = [] ∧ opened.calls.pending = [] ∧
        run (step answeringConfig) opened [.ended 0, .closed 0] = some closed ∧
        closed.calls.settled = [] ∧ closed.calls.timers = [1] :=
    ⟨_, _, rfl, rfl, rfl, rfl, rfl, rfl, rfl⟩
  refine ⟨opened, closed, hrun, hsent, hsettled, hpending, fun h => ?_, hrest⟩
  have hlost := (h.pending_iff 1).mpr ⟨by simp [hsent], by simp [hsettled, ids]⟩
  rw [hpending] at hlost
  cases hlost

end CorvidNano.Server.Accounting
