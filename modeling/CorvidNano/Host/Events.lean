import CorvidNano.Host.Dependencies
import CorvidNano.Host.PointerSafety

/-!
# Dispatching events to plugins

`handle_event` of the host's `main.rs`, `dispatch_event_to_plugin` of `invoke.rs`, and the
`__corvid_on_event` that the plugin macro generates. The handler goes through the manifests that
were registered when it began, and looks each one up again, one after the other, while requests
on the registry run on.

`accounted_iff` is the main result. A plugin is counted as dispatched when its invocation returns
a status, whatever the status is, so the count is right exactly if each plugin that is reached
exports the handler and its handler returns 0 whenever it returns.
-/

namespace CorvidNano.Host.Events

open Access Dependencies Loader PointerSafety Runs Sdk WasmMem

/-- An event, from `corvid-plugin-sdk`. -/
inductive PluginEvent where
  | agentMessage (sender : String) (content : Json)
  | algoTransaction (txid : String)
  | scheduledTick (intervalMs counter : UInt64)
  | httpWebhook (path : String) (body : Json)

/-- `PluginEvent::kind`. -/
def PluginEvent.kind : PluginEvent → EventKind
  | .agentMessage _ _ => .agentMessage
  | .algoTransaction _ => .algoTransaction
  | .scheduledTick _ _ => .scheduledTick
  | .httpWebhook _ _ => .httpWebhook

/-- The generated `__corvid_on_event`, on what the event decodes to. -/
def onEventStatus (decoded : Option PluginEvent) (handler : PluginEvent → Except PluginError Unit) :
    BitVec 32 :=
  match decoded with
  | none => -1
  | some event =>
      match handler event with
      | .ok () => 0
      | .error _ => -1

/-- How a call of an exported handler ends. -/
inductive CallResult where
  | returned (status : BitVec 32)
  | trapped
  | panicked
  deriving DecidableEq

/-- What an instance does in one dispatch: its handler, if it exports one, on a pointer, a length
and the memory, and its allocator. -/
structure Execution where
  onEvent : Option (BitVec 32 → BitVec 32 → List UInt8 → CallResult)
  exports : Caller

/-- The arguments of `dispatch_event_to_plugin`, the plugin's manifest instead of what the handler
takes from it, and what the instance will do. -/
structure Dispatch (platform : Platform) where
  manifest : PluginManifest
  module : platform.engine.Module
  limits : SandboxLimits
  execution : Execution

/-- The errors of `dispatch_event_to_plugin`. -/
inductive DispatchError where
  | store (error : Invoke.StoreError)
  | serialize
  | write (text : String)
  | call
  deriving DecidableEq

/-- The text of an error, without what Wasmtime says about a linker. -/
def DispatchError.display : DispatchError → Option String
  | .store (.definedTwice _) => none
  | .store .instantiate => some "failed to instantiate plugin for invocation"
  | .serialize => some "failed to serialize event"
  | .write text => some text
  | .call => some "__corvid_on_event call failed"

/-- What the handler gets back from the blocking task: a status, an error, or a `JoinError`. -/
inductive Outcome where
  | status (status : BitVec 32)
  | failed (error : DispatchError)
  | spawnFailed
  deriving DecidableEq

/-- `dispatch_event_to_plugin`, in a blocking task. -/
def dispatchEventToPlugin {platform : Platform} (toVec : PluginEvent → Option (List UInt8))
    (dispatch : Dispatch platform) (event : PluginEvent) : Outcome :=
  match Invoke.createExecutionStore platform.engine dispatch.module dispatch.manifest.id
      dispatch.manifest.capabilities dispatch.limits with
  | .error error => .failed (.store error)
  | .ok _ =>
      match dispatch.execution.onEvent with
      -- The plugin does not export `__corvid_on_event`.
      | none => .status (-1)
      | some eventFn =>
          match toVec event with
          | none => .failed .serialize
          | some eventBytes =>
              match writeToWasm dispatch.execution.exports eventBytes with
              -- The blocking thread panics.
              | .error _ => .spawnFailed
              | .ok (.error text) => .failed (.write text)
              | .ok (.ok (eventBuf, memory)) =>
                  match eventFn (eventBuf + 4) (BitVec.ofNat 32 eventBytes.length) memory with
                  | .trapped => .failed .call
                  | .panicked => .spawnFailed
                  | .returned status => .status status

/-- What a request meets: the registry at each moment, which some run of requests leads to, the
order in which the map was gone through, and the modules of the slots and the instances at each
moment. -/
structure Server (platform : Platform) where
  history : Nat → Registry platform
  reached : ∀ t, ∃ requests events, run step (.start requests) events = some (history t)
  values : List (Entry platform)
  valuesPerm : values.Perm (history 0).entries
  module : Nat → Nat → platform.engine.Module
  execution : Nat → Nat → Execution
  toVec : PluginEvent → Option (List UInt8)
  decodeEvent : Json → Except String PluginEvent

variable {platform : Platform}

/-- `PluginRegistry::list_manifests`, at the start. -/
def Server.listManifests (server : Server platform) : List PluginManifest :=
  server.values.map Entry.manifest

/-- The body of the loop up to the blocking task: the plugin subscribes to the event, it is still
registered, it is active, and `try_acquire` finds it active twice. Each of these looks at the
registry at a moment of its own. -/
def Server.acquire (server : Server platform) (event : PluginEvent) (t : Nat)
    (manifest : PluginManifest) : Option (Dispatch platform) := do
  guard (event.kind ∈ manifest.eventFilter)
  let entry ← (server.history t).get manifest.id
  guard (isActive (server.history (t + 1)).slots entry.slot)
  guard (isActive (server.history (t + 2)).slots entry.slot)
  guard (isActive (server.history (t + 3)).slots entry.slot)
  pure {
    manifest
    module := server.module (t + 4) entry.slot
    limits := entry.call.loaded.limits
    execution := server.execution (t + 5) entry.slot }

/-- The counter and the errors of `handle_event`. An error begins with the id of its plugin. -/
structure EventReport where
  dispatched : Nat
  errors : List (String × Outcome)

/-- The `match` on the result of the blocking task. -/
def EventReport.record (report : EventReport) (id : String) : Outcome → EventReport
  | .status _ => { report with dispatched := report.dispatched + 1 }
  | .failed error => { report with errors := report.errors ++ [(id, .failed error)] }
  | .spawnFailed => { report with errors := report.errors ++ [(id, .spawnFailed)] }

/-- The loop over the manifests, from a moment on. -/
def Server.dispatchFrom (server : Server platform) (event : PluginEvent) :
    Nat → List PluginManifest → EventReport → EventReport
  | _, [], report => report
  | t, manifest :: rest, report =>
      server.dispatchFrom event (t + 6) rest
        (match server.acquire event t manifest with
        | none => report
        | some dispatch =>
            report.record manifest.id (dispatchEventToPlugin server.toVec dispatch event))

/-- The loop of `handle_event`. -/
def Server.dispatchAll (server : Server platform) (event : PluginEvent) : EventReport :=
  server.dispatchFrom event 1 server.listManifests { dispatched := 0, errors := [] }

/-- `handle_event`. -/
def handleEvent (server : Server platform) (params : Json) : Except String EventReport :=
  match params.get? "event" with
  | none => .error "missing 'event' parameter"
  | some eventValue =>
      match server.decodeEvent eventValue with
      | .error e => .error ("invalid event: " ++ e)
      | .ok event => .ok (server.dispatchAll event)

/-! ## The calls of a request -/

/-- The calls of `dispatch_event_to_plugin` that the loop makes, from a moment on. -/
def Server.callsFrom (server : Server platform) (event : PluginEvent) :
    Nat → List PluginManifest → List (Dispatch platform)
  | _, [] => []
  | t, manifest :: rest =>
      (server.acquire event t manifest).toList ++ server.callsFrom event (t + 6) rest

/-- The plugins that `handle_event` attempts. -/
def Server.calls (server : Server platform) (event : PluginEvent) : List (Dispatch platform) :=
  server.callsFrom event 1 server.listManifests

/-- What comes of a call. -/
def Server.outcome (server : Server platform) (event : PluginEvent)
    (dispatch : Dispatch platform) : Outcome :=
  dispatchEventToPlugin server.toVec dispatch event

/-- The invocation returned a status. -/
def Outcome.isStatus : Outcome → Bool
  | .status _ => true
  | .failed _ | .spawnFailed => false

/-- The handler of the plugin reported success. -/
def Outcome.isSuccess (outcome : Outcome) : Bool := outcome == .status 0

/-- A call is made of the manifest that it was acquired for, whose filter has the event. -/
theorem acquire_eq_some {server : Server platform} {event : PluginEvent} {t : Nat}
    {manifest : PluginManifest} {dispatch : Dispatch platform}
    (h : server.acquire event t manifest = some dispatch) :
    dispatch.manifest = manifest ∧ event.kind ∈ manifest.eventFilter := by
  unfold Server.acquire guard at h
  simp only [Option.bind_eq_bind, Option.bind_eq_some_iff] at h
  obtain ⟨_, hfilter, entry, _, _, _, _, _, _, _, hdispatch⟩ := h
  split at hfilter
  · rename_i hkind
    cases hdispatch
    exact ⟨rfl, hkind⟩
  · cases hfilter

/-- The report is made of the outcomes of the calls, one after the other. -/
theorem dispatch_from_eq (server : Server platform) (event : PluginEvent) (t : Nat)
    (manifests : List PluginManifest) (report : EventReport) :
    server.dispatchFrom event t manifests report =
      (server.callsFrom event t manifests).foldl (fun report dispatch =>
        report.record dispatch.manifest.id (server.outcome event dispatch)) report := by
  induction manifests generalizing t report with
  | nil => rfl
  | cons manifest rest ih =>
      rw [Server.dispatchFrom, Server.callsFrom, List.foldl_append, ih]
      cases hacquire : server.acquire event t manifest with
      | none => rfl
      | some dispatch =>
          obtain ⟨rfl, -⟩ := acquire_eq_some hacquire
          rfl

/-- The counter counts the statuses, and the errors are the other outcomes in order. -/
theorem foldl_record {calls : List (Dispatch platform)} {outcome : Dispatch platform → Outcome}
    (report : EventReport) :
    calls.foldl (fun report dispatch => report.record dispatch.manifest.id (outcome dispatch))
        report = {
      dispatched := report.dispatched + calls.countP fun dispatch => (outcome dispatch).isStatus
      errors := report.errors ++ (calls.filter fun dispatch =>
        !(outcome dispatch).isStatus).map fun dispatch =>
          (dispatch.manifest.id, outcome dispatch) } := by
  induction calls generalizing report with
  | nil => simp
  | cons dispatch rest ih =>
      rw [List.foldl_cons, ih]
      cases houtcome : outcome dispatch with
      | status status =>
          simp [EventReport.record, Outcome.isStatus, houtcome, Nat.add_assoc, Nat.add_comm]
      | failed error => simp [EventReport.record, Outcome.isStatus, houtcome]
      | spawnFailed => simp [EventReport.record, Outcome.isStatus, houtcome]

theorem dispatch_all_eq (server : Server platform) (event : PluginEvent) :
    server.dispatchAll event = {
      dispatched := (server.calls event).countP fun dispatch =>
        (server.outcome event dispatch).isStatus
      errors := ((server.calls event).filter fun dispatch =>
        !(server.outcome event dispatch).isStatus).map fun dispatch =>
          (dispatch.manifest.id, server.outcome event dispatch) } := by
  rw [Server.dispatchAll, dispatch_from_eq, foldl_record, Nat.zero_add, List.nil_append]
  rfl

/-! ## Each plugin once -/

/-- The ids in the map are distinct. -/
def DistinctIds (registry : Registry platform) : Prop :=
  (registry.entries.map fun entry => entry.manifest.id).Nodup

theorem DistinctIds.step {registry next : Registry platform} {i : Nat}
    (h : DistinctIds registry) (hstep : Dependencies.step registry i = some next) :
    DistinctIds next := by
  obtain ⟨task, htask, _⟩ := Option.bind_eq_some_iff.mp hstep
  unfold DistinctIds at h ⊢
  rcases step_cases htask hstep with ⟨call, _, _, hfree, _, hentries⟩ | ⟨_, _, _, _, _, hentries⟩ |
    ⟨_, _, _, hentries⟩ | ⟨_, hentries, _⟩
  · rw [hentries, List.map_append, List.nodup_append']
    refine ⟨h, List.nodup_singleton _, List.disjoint_singleton.2 fun hmem => ?_⟩
    obtain ⟨entry, hentry, hid⟩ := List.mem_map.1 hmem
    have htaken : (registry.slotOf call.loaded.manifest.id).isSome = true :=
      slot_of_isSome_iff.2 ⟨entry, hentry, hid⟩
    rw [hfree] at htaken
    cases htaken
  · rwa [hentries]
  · rw [hentries]
    exact (List.filter_sublist.map _).nodup h
  · rwa [hentries]

/-- The ids of the manifests that the loop goes through are distinct. -/
theorem Server.list_manifests_nodup (server : Server platform) :
    (server.listManifests.map PluginManifest.id).Nodup := by
  obtain ⟨requests, events, hrun⟩ := server.reached 0
  have hdistinct : DistinctIds (server.history 0) := by
    refine run_invariant (fun h hstep => DistinctIds.step h hstep) ?_ hrun
    exact List.nodup_nil
  rw [Server.listManifests, List.map_map]
  exact (server.valuesPerm.map _).nodup_iff.2 hdistinct

/-- The plugin keeps one slot, and the slot is active, at each moment of the request. -/
def ActiveThroughout (server : Server platform) (id : String) : Prop :=
  ∃ slot, ∀ t, (server.history t).slotOf id = some slot ∧
    isActive (server.history t).slots slot = true

/-- The calls are of distinct manifests of the list. -/
theorem calls_from_sublist (server : Server platform) (event : PluginEvent) (t : Nat)
    (manifests : List PluginManifest) :
    ((server.callsFrom event t manifests).map Dispatch.manifest).Sublist manifests := by
  induction manifests generalizing t with
  | nil => exact List.Sublist.refl _
  | cons manifest rest ih =>
      rw [Server.callsFrom, List.map_append]
      cases hacquire : server.acquire event t manifest with
      | none => exact (ih (t + 6)).cons manifest
      | some dispatch =>
          obtain ⟨rfl, -⟩ := acquire_eq_some hacquire
          exact (ih (t + 6)).cons_cons _

/-- A manifest of the list whose plugin is acquired at any moment is called. -/
theorem mem_calls_from {server : Server platform} {event : PluginEvent} {manifest : PluginManifest}
    (hacquire : ∀ t, (server.acquire event t manifest).isSome = true)
    {manifests : List PluginManifest} (hmem : manifest ∈ manifests) (t : Nat) :
    manifest ∈ (server.callsFrom event t manifests).map Dispatch.manifest := by
  induction manifests generalizing t with
  | nil => cases hmem
  | cons head rest ih =>
      rw [Server.callsFrom, List.map_append, List.mem_append]
      cases List.mem_cons.1 hmem with
      | inl heq =>
          subst heq
          obtain ⟨dispatch, hdispatch⟩ := Option.isSome_iff_exists.1 (hacquire t)
          obtain ⟨rfl, -⟩ := acquire_eq_some hdispatch
          refine Or.inl ?_
          rw [hdispatch]
          exact List.mem_singleton_self _
      | inr hrest => exact Or.inr (ih hrest (t + 6))

/-- A plugin that is active throughout is acquired at any moment. -/
theorem acquire_of_active {server : Server platform} {event : PluginEvent}
    {manifest : PluginManifest} (hactive : ActiveThroughout server manifest.id)
    (hkind : event.kind ∈ manifest.eventFilter) (t : Nat) :
    (server.acquire event t manifest).isSome = true := by
  obtain ⟨slot, hslot⟩ := hactive
  obtain ⟨entry, hentry, hindex⟩ := Option.map_eq_some_iff.1 (hslot t).1
  have hstate := fun t => hindex ▸ (hslot t).2
  unfold Server.acquire guard
  simp [hkind, hentry, hstate]

/-- A plugin that is active throughout and subscribes to the event is attempted once. -/
theorem count_calls {server : Server platform} {event : PluginEvent}
    {manifest : PluginManifest} (hmem : manifest ∈ server.listManifests)
    (hactive : ActiveThroughout server manifest.id) (hkind : event.kind ∈ manifest.eventFilter) :
    ((server.calls event).map fun dispatch => dispatch.manifest.id).count manifest.id = 1 := by
  have hcalled := mem_calls_from (acquire_of_active hactive hkind) hmem 1
  have hsublist := (calls_from_sublist server event 1 server.listManifests).map PluginManifest.id
  rw [List.map_map] at hsublist
  refine List.count_eq_one_of_mem (hsublist.nodup server.list_manifests_nodup) ?_
  obtain ⟨dispatch, hdispatch, heq⟩ := List.mem_map.1 hcalled
  exact List.mem_map.2 ⟨dispatch, hdispatch, congrArg PluginManifest.id heq⟩

/-! ## Accounting -/

/-- The plugin is reached by the event with success, or not at all: if it can be instantiated it
exports the handler, and its handler returns 0 whenever it returns. -/
def Handles (server : Server platform) (event : PluginEvent) (dispatch : Dispatch platform) :
    Prop :=
  (∃ inst, Invoke.createExecutionStore platform.engine dispatch.module dispatch.manifest.id
      dispatch.manifest.capabilities dispatch.limits = .ok inst) →
    ∃ eventFn, dispatch.execution.onEvent = some eventFn ∧
      ∀ eventBytes eventBuf memory, server.toVec event = some eventBytes →
        writeToWasm dispatch.execution.exports eventBytes = .ok (.ok (eventBuf, memory)) →
        ∀ status, eventFn (eventBuf + 4) (BitVec.ofNat 32 eventBytes.length) memory =
          .returned status → status = 0

/-- A plugin handles the event exactly if no status but 0 comes back. -/
theorem handles_iff {server : Server platform} {event : PluginEvent}
    {dispatch : Dispatch platform} :
    Handles server event dispatch ↔
      ∀ status, server.outcome event dispatch = .status status → status = 0 := by
  have hmissing : (-1 : BitVec 32) ≠ 0 := by decide
  unfold Handles Server.outcome dispatchEventToPlugin
  cases Invoke.createExecutionStore platform.engine dispatch.module dispatch.manifest.id
      dispatch.manifest.capabilities dispatch.limits with
  | error error => exact iff_of_true (fun ⟨_, h⟩ => by (cases h)) fun _ h => by (cases h)
  | ok inst =>
      rw [forall_prop_of_true ⟨inst, rfl⟩]
      cases dispatch.execution.onEvent with
      | none =>
          exact iff_of_false (fun ⟨_, h, _⟩ => by (cases h)) fun h => hmissing (h _ rfl)
      | some eventFn =>
          simp only [Option.some.injEq, exists_eq_left']
          cases server.toVec event with
          | none => exact iff_of_true (fun _ _ _ h => by (cases h)) fun _ h => by (cases h)
          | some eventBytes =>
              simp only [Option.some.injEq]
              constructor
              · intro h status hstatus
                split at hstatus
                · cases hstatus
                · cases hstatus
                · rename_i eventBuf memory hwritten
                  have hzero := h eventBytes eventBuf memory rfl hwritten
                  cases hcall : eventFn (eventBuf + 4) (BitVec.ofNat 32 eventBytes.length)
                      memory with
                  | trapped | panicked =>
                      rw [hcall] at hstatus
                      cases hstatus
                  | returned other =>
                      rw [hcall] at hstatus
                      cases hstatus
                      exact hzero status hcall
              · rintro h _ eventBuf memory rfl hwritten status hcall
                refine h status ?_
                simp only [hwritten, hcall]

/-- The accounts of `handle_event`. Each plugin that stays active and subscribes to the event is
attempted once, the counter is the number of plugins whose handler reported success, and each
other attempted plugin has one entry among the errors. -/
structure Accounted (server : Server platform) (event : PluginEvent) : Prop where
  attempted : ∀ manifest ∈ server.listManifests, ActiveThroughout server manifest.id →
    event.kind ∈ manifest.eventFilter →
    ((server.calls event).map fun dispatch => dispatch.manifest.id).count manifest.id = 1
  dispatched : (server.dispatchAll event).dispatched =
    (server.calls event).countP fun dispatch => (server.outcome event dispatch).isSuccess
  errors : ((server.dispatchAll event).errors.map Prod.fst) =
    ((server.calls event).filter fun dispatch =>
      !(server.outcome event dispatch).isSuccess).map fun dispatch => dispatch.manifest.id

/-- Every status that is returned counts as success, so the accounts are right exactly if each
attempted plugin that can be instantiated exports the handler and never returns another status
than 0. -/
theorem accounted_iff (server : Server platform) (event : PluginEvent) :
    Accounted server event ↔
      ∀ dispatch ∈ server.calls event, Handles server event dispatch := by
  have hsuccess : ∀ dispatch, (server.outcome event dispatch).isSuccess = true →
      (server.outcome event dispatch).isStatus = true := by
    intro dispatch h
    rw [beq_iff_eq.1 h]
    rfl
  have hhandles : ∀ dispatch, Handles server event dispatch ↔
      ((server.outcome event dispatch).isStatus = true →
        (server.outcome event dispatch).isSuccess = true) := by
    intro dispatch
    rw [handles_iff]
    cases houtcome : server.outcome event dispatch with
    | status status => simp [Outcome.isStatus, Outcome.isSuccess]
    | failed error | spawnFailed => simp [Outcome.isStatus]
  constructor
  · intro h dispatch hmem
    have hcount := h.dispatched
    rw [dispatch_all_eq] at hcount
    -- The successes are among the statuses, so as many of them are the same ones.
    have hsublist := List.monotone_filter_right (server.calls event) hsuccess
    have heq := hsublist.eq_of_length (by
      rw [← List.countP_eq_length_filter, ← List.countP_eq_length_filter]
      exact hcount.symm)
    refine (hhandles dispatch).2 fun hstatus => ?_
    have hin : dispatch ∈ (server.calls event).filter fun dispatch =>
        (server.outcome event dispatch).isStatus := List.mem_filter.2 ⟨hmem, hstatus⟩
    rw [← heq] at hin
    exact (List.mem_filter.1 hin).2
  · intro h
    have hsame : ∀ dispatch ∈ server.calls event, (server.outcome event dispatch).isStatus =
        (server.outcome event dispatch).isSuccess := fun dispatch hmem =>
      Bool.eq_iff_iff.2 ⟨(hhandles dispatch).1 (h dispatch hmem), hsuccess dispatch⟩
    refine ⟨fun manifest hmem hactive hkind => count_calls hmem hactive hkind, ?_, ?_⟩
    · rw [dispatch_all_eq]
      exact List.countP_congr fun dispatch hmem => by rw [hsame dispatch hmem]
    · rw [dispatch_all_eq, List.map_map]
      refine congrArg _ (List.filter_congr fun dispatch hmem => ?_)
      rw [hsame dispatch hmem]

/-! ## A plugin that fails -/

/-- The sample platform with a plugin that subscribes to ticks. -/
def tickPlatform : Platform :=
  { Invoke.samplePlatform with
    decodeManifest := fun _ =>
      .ok { Invoke.sampleManifest [] with eventFilter := [.scheduledTick] } }

/-- A load of that plugin. -/
def tickLoad : LoadCall tickPlatform where
  input := { wasmBytes := [2], sigData := none, trustedKeys := .notFound, tier := .untrusted }
  loaded := {
    manifest := { Invoke.sampleManifest [] with eventFilter := [.scheduledTick] }
    tier := .untrusted
    module := .plain
    limits := .forTier .untrusted }
  succeeded := rfl

/-- The registry with that plugin. -/
def tickRegistry : Registry tickPlatform where
  slots := [⟨.active, false⟩]
  entries := [⟨0, tickLoad⟩]
  tasks := [⟨.register tickLoad, .finished⟩]

/-- A server on which the plugin stays registered, with what its instances export as a handler.
They allocate the rest of a memory of 32 bytes. -/
def tickServer (onEvent : Option (BitVec 32 → BitVec 32 → List UInt8 → CallResult)) :
    Server tickPlatform where
  history := fun _ => tickRegistry
  reached := fun _ => ⟨[.register tickLoad], [0], rfl⟩
  values := [⟨0, tickLoad⟩]
  valuesPerm := List.Perm.refl _
  module := fun _ _ => .plain
  execution := fun _ _ => {
    onEvent
    exports := {
      memory := some (List.replicate 32 0)
      alloc := some fun _ => some (16, some (List.replicate 32 0)) } }
  toVec := fun _ => some [1, 2]
  decodeEvent := fun _ => .ok (.scheduledTick 1000 1)

/-- A tick. -/
def tick : PluginEvent := .scheduledTick 1000 1

/-- A handler that fails is counted as dispatched, and so is a plugin without a handler. -/
theorem failed_handler_dispatched :
    (tickServer (some fun _ _ _ => .returned (onEventStatus (some tick) fun _ =>
        .error .timeout))).dispatchAll tick = { dispatched := 1, errors := [] } ∧
      (tickServer none).dispatchAll tick = { dispatched := 1, errors := [] } ∧
      ¬ Accounted (tickServer (some fun _ _ _ => .returned (onEventStatus (some tick) fun _ =>
        .error .timeout))) tick ∧
      ¬ Accounted (tickServer none) tick := by
  refine ⟨rfl, rfl, fun h => ?_, fun h => ?_⟩
  · exact absurd h.dispatched (by decide)
  · exact absurd h.dispatched (by decide)

end CorvidNano.Host.Events
