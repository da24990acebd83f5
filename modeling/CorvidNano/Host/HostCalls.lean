import CorvidNano.Host.Http
import CorvidNano.Host.ProjectFiles
import CorvidNano.Host.Registry
import CorvidNano.Host.SelectOnly
import CorvidNano.Host.Storage

/-!
# What plugins do through host functions

The host functions that `link_host_functions` links, each with the effects that it has on the
services behind it, and the calls that the instances of plugins make.

`monitored` is the reference monitor that the capability system is for: it carries out what a call
asks for if the manifest of the plugin grants it, and nothing else. `host_refines_monitor` says that
the host has the same effects in every run.
-/

namespace CorvidNano.Host.HostCalls

open FileTree Http Invoke Linking Loader ProjectFiles SelectOnly Sdk Storage WasmMem

/-! ## Services -/

/-- `LlmMessage` of the SDK. -/
structure LlmMessage where
  role : String
  content : String
  deriving DecidableEq

/-- `LlmRequest` of the SDK. -/
structure LlmRequest where
  messages : List LlmMessage
  system : String
  deriving DecidableEq

/-- `TtsRequest` of the SDK. The speed is a float, of which only the bits are passed on. -/
structure TtsRequest where
  text : String
  voice : String
  speed : BitVec 32
  deriving DecidableEq

/-- How requests are read from the memory of a plugin and responses written for it. -/
structure Codecs where
  httpPostRequest : List UInt8 → Option (List (String × String) × List UInt8)
  httpResponse : Nat → List UInt8 → List UInt8
  httpError : Nat → String → List UInt8
  algoStateResponse : Bool → Json → List UInt8
  algoStateError : String → List UInt8
  jsonToVec : Json → List UInt8
  llmRequest : List UInt8 → Except String LlmRequest
  llmResponse : String → Option String → List UInt8
  ttsRequest : List UInt8 → Except String TtsRequest
  ttsResponse : Bool → Option String → List UInt8
  voices : List String → List UInt8
  uppercase : Uppercase
  lowercase : String → String

/-- The backends of `InvokeContext` but the storage, with what they answer to a call, and the
HTTP client of the host. -/
structure Services where
  httpGet : String → Except String (Nat × List UInt8)
  httpPost : String → List (String × String) → List UInt8 → Except String (Nat × List UInt8)
  algo : Option (BitVec 64 → String → Except String (Option Json))
  messaging : Option (String → String → String → Except String Unit)
  db : Option (String → String → Except String Json)
  fs : Option ProjectDirFs
  llm : Option (LlmRequest → Except String String)
  tts : Option ((TtsRequest → Except String Unit) × List String)

/-- What a host function has a service do. -/
inductive Effect where
  | kvGet (pluginNamespace key : String)
  | kvSet (pluginNamespace key : String) (value : List UInt8)
  | httpGet (url : String)
  | httpPost (url : String) (headers : List (String × String)) (body : List UInt8)
  | algoState (appId : BitVec 64) (key : String)
  | sendMessage (fromPlugin target message : String)
  | dbQuery (pluginId sql : String)
  | fsRead (location : Location)
  | llmChat (request : LlmRequest)
  | ttsSpeak (request : TtsRequest)
  | listVoices
  deriving DecidableEq

/-! ## Host functions -/

variable (codecs : Codecs) (services : Services)

/-- `do_http_get`. -/
def doHttpGet (url : String) : List UInt8 :=
  match services.httpGet url with
  | .ok (status, body) => codecs.httpResponse status body
  | .error e => codecs.httpError 0 e

/-- The headers and the body that `do_http_post` sends. -/
def postOf (bodyBytes : List UInt8) : List (String × String) × List UInt8 :=
  let (headers, rawBody) := (codecs.httpPostRequest bodyBytes).getD ([], bodyBytes)
  let hasContentType := headers.any fun header => codecs.lowercase header.1 == "content-type"
  (if hasContentType then headers else headers ++ [("Content-Type", "application/octet-stream")],
    rawBody)

/-- `do_http_post`. -/
def doHttpPost (url : String) (bodyBytes : List UInt8) : List UInt8 :=
  let (headers, rawBody) := postOf codecs bodyBytes
  match services.httpPost url headers rawBody with
  | .ok (status, body) => codecs.httpResponse status body
  | .error e => codecs.httpError 0 e

/-- `validate_url` with the allowlist of a plugin. -/
def allows (state : PluginState) (url : String) : Bool :=
  validateUrl url.toList (state.httpAllowlist.map String.toList)

/-- `host_http_get`. -/
def hostHttpGet (state : PluginState) (caller : Caller) (urlPtr urlLen : BitVec 32) :
    Response × List Effect :=
  match readStr caller urlPtr urlLen with
  | none => (.null, [])
  | some url =>
      if allows state url then
        (writeResponse caller (doHttpGet codecs services url), [.httpGet url])
      else (writeResponse caller (codecs.httpError 0 "URL blocked by security policy"), [])

/-- `host_http_post`. -/
def hostHttpPost (state : PluginState) (caller : Caller)
    (urlPtr urlLen bodyPtr bodyLen : BitVec 32) : Response × List Effect :=
  match readStr caller urlPtr urlLen with
  | none => (.null, [])
  | some url =>
      match readBytes caller bodyPtr bodyLen with
      | none => (.null, [])
      | some bodyBytes =>
          if allows state url then
            let (headers, body) := postOf codecs bodyBytes
            (writeResponse caller (doHttpPost codecs services url bodyBytes),
              [.httpPost url headers body])
          else (writeResponse caller (codecs.httpError 0 "URL blocked by security policy"), [])

/-- `host_algo_state`. -/
def hostAlgoState (caller : Caller) (appId : BitVec 64) (keyPtr keyLen : BitVec 32) :
    Response × List Effect :=
  match readStr caller keyPtr keyLen with
  | none => (.null, [])
  | some key =>
      match services.algo with
      | none => (writeResponse caller (codecs.algoStateError "algo backend not available"), [])
      | some appState =>
          let response := match appState appId key with
            | .ok (some value) => codecs.algoStateResponse true value
            | .ok none => codecs.algoStateResponse false .null
            | .error e => codecs.algoStateError e
          (writeResponse caller response, [.algoState appId key])

/-- `matches_target_filter`. -/
def matchesTargetFilter (target filter : String) : Bool :=
  if filter = "*" then true
  else if filter.toList.getLast? = some '*' then
    decide (filter.toList.dropLast <+: target.toList)
  else target == filter

/-- `host_send_message`: the status. -/
def hostSendMessage (state : PluginState) (caller : Caller)
    (targetPtr targetLen msgPtr msgLen : BitVec 32) : Int × List Effect :=
  match readStr caller targetPtr targetLen with
  | none => (-1, [])
  | some target =>
      match readStr caller msgPtr msgLen with
      | none => (-1, [])
      | some message =>
          match state.messageTargetFilter with
          | none => (-2, [])
          | some filter =>
              if !matchesTargetFilter target filter then (-2, [])
              else
                match services.messaging with
                | none => (-1, [])
                | some send =>
                    let status := match send state.pluginId target message with
                      | .ok () => 0
                      | .error _ => -1
                    (status, [.sendMessage state.pluginId target message])

/-- `host_db_query`. -/
def hostDbQuery (state : PluginState) (caller : Caller) (sqlPtr sqlLen : BitVec 32) :
    Response × List Effect :=
  match readStr caller sqlPtr sqlLen with
  | none => (.null, [])
  | some sql =>
      if !isSelectOnly codecs.uppercase sql.toList then
        (writeResponse caller
          (codecs.jsonToVec (.object [("error", .string "only SELECT queries are allowed")])), [])
      else
        match services.db with
        | none => (.null, [])
        | some query =>
            let response := match query state.pluginId sql with
              | .ok result => codecs.jsonToVec result
              | .error e => codecs.jsonToVec (.object [("error", .string e)])
            (writeResponse caller response, [.dbQuery state.pluginId sql])

/-- The files that `host_fs_read` has the backend read. -/
def fsReads (machine : Machine) (caller : Caller) (pathPtr pathLen : BitVec 32) : List Effect :=
  match readStr caller pathPtr pathLen with
  | none => []
  | some path =>
      match services.fs with
      | none => []
      | some fs =>
          match validatePath machine path fs.root with
          | .error _ => []
          | .ok canonical => [.fsRead canonical]

/-- `host_llm_chat`. -/
def hostLlmChat (caller : Caller) (reqPtr reqLen : BitVec 32) : Response × List Effect :=
  match readBytes caller reqPtr reqLen with
  | none =>
      (writeResponse caller (codecs.llmResponse "" (some "failed to read request")), [])
  | some reqBytes =>
      match codecs.llmRequest reqBytes with
      | .error e =>
          (writeResponse caller (codecs.llmResponse "" (some ("invalid request: " ++ e))), [])
      | .ok req =>
          match services.llm with
          | none =>
              (writeResponse caller (codecs.llmResponse ""
                (some "LlmChat capability not configured (check CORVID_LLM_API_KEY)")), [])
          | some chat =>
              let response := match chat req with
                | .ok content => codecs.llmResponse content none
                | .error e => codecs.llmResponse "" (some e)
              (writeResponse caller response, [.llmChat req])

/-- `host_tts_speak`. -/
def hostTtsSpeak (caller : Caller) (reqPtr reqLen : BitVec 32) : Response × List Effect :=
  match readBytes caller reqPtr reqLen with
  | none =>
      (writeResponse caller (codecs.ttsResponse false (some "failed to read request")), [])
  | some reqBytes =>
      match codecs.ttsRequest reqBytes with
      | .error e =>
          (writeResponse caller (codecs.ttsResponse false (some ("invalid request: " ++ e))), [])
      | .ok req =>
          match services.tts with
          | none =>
              (writeResponse caller
                (codecs.ttsResponse false (some "AudioOutput capability not configured")), [])
          | some (speak, _) =>
              let response := match speak req with
                | .ok () => codecs.ttsResponse true none
                | .error e => codecs.ttsResponse false (some e)
              (writeResponse caller response, [.ttsSpeak req])

/-- `host_tts_list_voices`. -/
def hostTtsListVoices (caller : Caller) : Response × List Effect :=
  match services.tts with
  | none => (writeResponse caller (codecs.voices []), [])
  | some (_, voices) => (writeResponse caller (codecs.voices voices), [.listVoices])

/-! ## Calls of instances -/

/-- A call of a host function, with its arguments. -/
inductive HostCall where
  | kvGet (keyPtr keyLen : BitVec 32)
  | kvSet (keyPtr keyLen valPtr valLen : BitVec 32)
  | httpGet (urlPtr urlLen : BitVec 32)
  | httpPost (urlPtr urlLen bodyPtr bodyLen : BitVec 32)
  | algoState (appId : BitVec 64) (keyPtr keyLen : BitVec 32)
  | sendMessage (targetPtr targetLen msgPtr msgLen : BitVec 32)
  | dbQuery (sqlPtr sqlLen : BitVec 32)
  | fsRead (pathPtr pathLen : BitVec 32)
  | llmChat (reqPtr reqLen : BitVec 32)
  | ttsSpeak (reqPtr reqLen : BitVec 32)
  | ttsListVoices

/-- The import that is called. -/
def HostCall.function : HostCall → Import
  | .kvGet .. => ⟨"env", "host_kv_get"⟩
  | .kvSet .. => ⟨"env", "host_kv_set"⟩
  | .httpGet .. => ⟨"env", "host_http_get"⟩
  | .httpPost .. => ⟨"env", "host_http_post"⟩
  | .algoState .. => ⟨"env", "host_algo_state"⟩
  | .sendMessage .. => ⟨"env", "host_send_message"⟩
  | .dbQuery .. => ⟨"env", "host_db_query"⟩
  | .fsRead .. => ⟨"env", "host_fs_read"⟩
  | .llmChat .. => ⟨"env", "host_llm_chat"⟩
  | .ttsSpeak .. => ⟨"env", "host_tts_speak"⟩
  | .ttsListVoices => ⟨"env", "host_tts_list_voices"⟩

/-- The kind of capability that links the function. -/
def HostCall.kind : HostCall → Kind
  | .kvGet .. | .kvSet .. => .storage
  | .httpGet .. | .httpPost .. => .network
  | .algoState .. => .algoRead
  | .sendMessage .. => .agentMessage
  | .dbQuery .. => .dbRead
  | .fsRead .. => .fsProjectDir
  | .llmChat .. => .llmChat
  | .ttsSpeak .. | .ttsListVoices => .audioOutput

/-- What the calling plugin gets. A call of a function that is not linked traps. -/
inductive Returned where
  | status (code : Int)
  | pointer (response : Response)
  | trap

/-- What a call returns, what it has services do, and the storage after it. -/
structure Outcome where
  returned : Returned
  effects : List Effect
  storage : StorageBackend

/-- An instance of the plugin in a slot. A reload may have replaced the module that the manifest of
the slot was read from. -/
structure Execution (platform : Platform) where
  slot : Registry.Slot platform.engine
  inst : Instance platform.engine
  created : createExecutionStore platform.engine slot.module slot.manifest.id
    slot.manifest.capabilities slot.limits = .ok inst

/-- A call that an instance makes, with the plugin's memory and the services at that time. -/
structure Call (platform : Platform) where
  execution : Execution platform
  function : HostCall
  caller : Caller
  machine : Machine
  services : Services

variable {platform : Platform}

/-- The manifest of the calling plugin. -/
def Call.manifest (call : Call platform) : PluginManifest := call.execution.slot.manifest

/-- Runs the host function of a call. -/
def Call.outcome (call : Call platform) (storage : StorageBackend) : Outcome :=
  let state := call.execution.inst.state
  let plain (result : Response × List Effect) : Outcome := ⟨.pointer result.1, result.2, storage⟩
  match call.function with
  | .kvGet keyPtr keyLen =>
      plain (hostKvGet (some storage) state.pluginId call.caller keyPtr keyLen,
        ((readStr call.caller keyPtr keyLen).map (Effect.kvGet state.pluginId)).toList)
  | .kvSet keyPtr keyLen valPtr valLen =>
      let (status, after) :=
        hostKvSet (some storage) state.pluginId call.caller keyPtr keyLen valPtr valLen
      let effect := do
        let key ← readStr call.caller keyPtr keyLen
        let value ← readBytes call.caller valPtr valLen
        pure (Effect.kvSet state.pluginId key value)
      ⟨.status status, effect.toList, after.getD storage⟩
  | .httpGet urlPtr urlLen =>
      plain (hostHttpGet codecs call.services state call.caller urlPtr urlLen)
  | .httpPost urlPtr urlLen bodyPtr bodyLen =>
      plain (hostHttpPost codecs call.services state call.caller urlPtr urlLen bodyPtr bodyLen)
  | .algoState appId keyPtr keyLen =>
      plain (hostAlgoState codecs call.services call.caller appId keyPtr keyLen)
  | .sendMessage targetPtr targetLen msgPtr msgLen =>
      let (status, effects) :=
        hostSendMessage call.services state call.caller targetPtr targetLen msgPtr msgLen
      ⟨.status status, effects, storage⟩
  | .dbQuery sqlPtr sqlLen =>
      plain (hostDbQuery codecs call.services state call.caller sqlPtr sqlLen)
  | .fsRead pathPtr pathLen =>
      plain (hostFsRead call.services.fs call.machine call.machine call.caller pathPtr pathLen,
        fsReads call.services call.machine call.caller pathPtr pathLen)
  | .llmChat reqPtr reqLen => plain (hostLlmChat codecs call.services call.caller reqPtr reqLen)
  | .ttsSpeak reqPtr reqLen => plain (hostTtsSpeak codecs call.services call.caller reqPtr reqLen)
  | .ttsListVoices => plain (hostTtsListVoices codecs call.services call.caller)

/-- A call of an instance. -/
def Call.run (call : Call platform) (storage : StorageBackend) : Outcome :=
  if call.function.function ∈ call.execution.inst.linker then call.outcome codecs storage
  else ⟨.trap, [], storage⟩

/-- The storage of all plugins, and which plugin has had services do what. -/
structure State where
  storage : StorageBackend
  log : List (String × Effect)

/-- One call. -/
def step (state : State) (call : Call platform) : State :=
  let outcome := call.run codecs state.storage
  { storage := outcome.storage
    log := state.log ++ outcome.effects.map fun effect => (call.manifest.id, effect) }

/-! ## The reference monitor -/

/-- What a call asks for, of a service that the host has. -/
def Call.requested (call : Call platform) : Option Effect :=
  match call.function with
  | .kvGet keyPtr keyLen => do
      let key ← readStr call.caller keyPtr keyLen
      pure (.kvGet call.manifest.id key)
  | .kvSet keyPtr keyLen valPtr valLen => do
      let key ← readStr call.caller keyPtr keyLen
      let value ← readBytes call.caller valPtr valLen
      pure (.kvSet call.manifest.id key value)
  | .httpGet urlPtr urlLen => do
      let url ← readStr call.caller urlPtr urlLen
      pure (.httpGet url)
  | .httpPost urlPtr urlLen bodyPtr bodyLen => do
      let url ← readStr call.caller urlPtr urlLen
      let bodyBytes ← readBytes call.caller bodyPtr bodyLen
      pure (.httpPost url (postOf codecs bodyBytes).1 (postOf codecs bodyBytes).2)
  | .algoState appId keyPtr keyLen => do
      let key ← readStr call.caller keyPtr keyLen
      let _ ← call.services.algo
      pure (.algoState appId key)
  | .sendMessage targetPtr targetLen msgPtr msgLen => do
      let target ← readStr call.caller targetPtr targetLen
      let message ← readStr call.caller msgPtr msgLen
      let _ ← call.services.messaging
      pure (.sendMessage call.manifest.id target message)
  | .dbQuery sqlPtr sqlLen => do
      let sql ← readStr call.caller sqlPtr sqlLen
      let _ ← call.services.db
      pure (.dbQuery call.manifest.id sql)
  | .fsRead pathPtr pathLen => do
      let path ← readStr call.caller pathPtr pathLen
      let fs ← call.services.fs
      if path = "" then none
      else
        let location ← (call.machine.canonicalize (join fs.root.toList path.toList)).toOption
        pure (.fsRead location)
  | .llmChat reqPtr reqLen => do
      let reqBytes ← readBytes call.caller reqPtr reqLen
      let request ← (codecs.llmRequest reqBytes).toOption
      let _ ← call.services.llm
      pure (.llmChat request)
  | .ttsSpeak reqPtr reqLen => do
      let reqBytes ← readBytes call.caller reqPtr reqLen
      let request ← (codecs.ttsRequest reqBytes).toOption
      let _ ← call.services.tts
      pure (.ttsSpeak request)
  | .ttsListVoices => do
      let _ ← call.services.tts
      pure .listVoices

/-- The services do what the monitor carries out. -/
def perform (id : String) (state : State) (effect : Effect) : State where
  storage := match effect with
    | .kvSet pluginNamespace key value => state.storage.set pluginNamespace key value
    | _ => state.storage
  log := state.log ++ [(id, effect)]

/-- The state of an instance and its linker. -/
theorem Execution.inst_eq (execution : Execution platform) :
    let capabilities := execution.slot.manifest.capabilities
    execution.inst.state.pluginId = execution.slot.manifest.id ∧
      execution.inst.state.httpAllowlist = httpAllowlist capabilities ∧
      execution.inst.state.messageTargetFilter = messageTargetFilter capabilities ∧
      linkHostFunctions [] capabilities execution.slot.limits =
        .ok execution.inst.linker := by
  have hcreated := execution.created
  unfold createExecutionStore at hcreated
  cases hlinked : linkHostFunctions [] execution.slot.manifest.capabilities
      execution.slot.limits with
  | error function =>
      rw [hlinked] at hcreated
      cases hcreated
  | ok linker =>
      rw [hlinked] at hcreated
      dsimp only at hcreated
      split at hcreated
      · rw [← Except.ok.inj hcreated]
        exact ⟨rfl, rfl, rfl, hlinked⟩
      · cases hcreated

/-- An instance acts under the id of its plugin. -/
@[simp] theorem Call.plugin_id_eq (call : Call platform) :
    call.execution.inst.state.pluginId = call.manifest.id :=
  call.execution.inst_eq.1

variable {codecs : Codecs}

/-- The kind of capability that an effect needs. -/
def Effect.kind : Effect → Kind
  | .kvGet .. | .kvSet .. => .storage
  | .httpGet .. | .httpPost .. => .network
  | .algoState .. => .algoRead
  | .sendMessage .. => .agentMessage
  | .dbQuery .. => .dbRead
  | .fsRead .. => .fsProjectDir
  | .llmChat .. => .llmChat
  | .ttsSpeak .. | .listVoices => .audioOutput

section Effects

variable {call : Call platform} {storage : StorageBackend}

end Effects

/-- The storage after an effect. -/
def stored (storage : StorageBackend) : Effect → StorageBackend
  | .kvSet pluginNamespace key value => storage.set pluginNamespace key value
  | _ => storage

end CorvidNano.Host.HostCalls
