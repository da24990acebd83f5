import CorvidNano.Bridge.JsonRpc
import CorvidNano.Bridge.ToolInput
import CorvidNano.Host.Invoke

/-!
# The reply to `plugin.list`

What `handle_request` makes of the registered manifests, and what its two clients make of that:
`PluginBridge::list_plugins` of the agent and `query_host_list` of the plugin CLI. Serde writes a
capability without data as the name of its variant, and one with data as an object.

`plugin_list_unreadable` is the main result: the CLI reads no reply, and the agent reads those in
which no capability has data.
-/

namespace CorvidNano.Bridge.PluginList

open Sdk ToolInput

/-- An array of strings. -/
def strings (texts : List String) : Json := .array (texts.map Json.string)

/-- A capability as serde writes it. -/
def capabilityJson : Capability → Json
  | .network allowlist => .object [("Network", .object [("allowlist", strings allowlist)])]
  | .storage storageNamespace =>
      .object [("Storage", .object [("namespace", .string storageNamespace)])]
  | .algoRead => .string "AlgoRead"
  | .dbRead => .string "DbRead"
  | .fsProjectDir => .string "FsProjectDir"
  | .agentMessage targetFilter =>
      .object [("AgentMessage", .object [("target_filter", .string targetFilter)])]
  | .llmChat => .string "LlmChat"
  | .audioOutput => .string "AudioOutput"

/-- A kind of event as serde writes it. -/
def eventKindJson : EventKind → Json
  | .agentMessage => .string "AgentMessage"
  | .algoTransaction => .string "AlgoTransaction"
  | .scheduledTick => .string "ScheduledTick"
  | .httpWebhook => .string "HttpWebhook"

/-- A tool as serde writes it. The members of an object are in the order of their names. -/
def toolJson (tool : ToolInfo) : Json :=
  .object [
    ("description", .string tool.description),
    ("input_schema", tool.inputSchema),
    ("name", .string tool.name)]

/-- A manifest as serde writes it. -/
def manifestJson (manifest : PluginManifest) : Json :=
  .object [
    ("author", .string manifest.author),
    ("capabilities", .array (manifest.capabilities.map capabilityJson)),
    ("dependencies", strings manifest.dependencies),
    ("description", .string manifest.description),
    ("event_filter", .array (manifest.eventFilter.map eventKindJson)),
    ("id", .string manifest.id),
    ("min_host_version", .string manifest.minHostVersion),
    ("tools", .array (manifest.tools.map toolJson)),
    ("trust_tier", .string manifest.trustTier.variant),
    ("version", .string manifest.version)]

/-- The response of `handle_request` to `plugin.list`, from the result of `list_manifests`. -/
def pluginListResponse (manifests : List PluginManifest) (id : Option Json) :
    JsonRpcResponse Json :=
  .ofResult (.ok (.object [("plugins", .array (manifests.map manifestJson))])) id

/-- The response as a JSON object. Serde writes an absent value as `null`. -/
def responseJson (response : JsonRpcResponse Json) : Json :=
  .object [
    ("result", response.result.getD .null),
    ("error", (response.error.map Json.string).getD .null),
    ("id", response.id.getD .null)]

/-! ## The clients -/

/-- What serde makes of a value where a list is expected. -/
def readList {Element : Type} (read : Json → Option Element) : Json → Option (List Element)
  | .array elements => elements.mapM read
  | _ => none

/-- A field with `serde(default)`. -/
def readDefault {Value : Type} (read : Json → Option Value) (default : Value) :
    Option Json → Option Value
  | none => some default
  | some value => read value

/-- `PluginInfo`. -/
structure PluginInfo where
  id : String
  version : String
  author : String
  description : String
  capabilities : List String
  trustTier : String
  deriving DecidableEq

/-- The fields of `PluginInfo`, in their order. -/
def PluginInfo.fields : List String :=
  ["id", "version", "author", "description", "capabilities", "trust_tier"]

/-- The `PluginInfo` with these fields. -/
def PluginInfo.ofFields (field : String → Option Json) : Option PluginInfo := do
  let id ← (field "id").bind asStr
  let version ← (field "version").bind asStr
  let author ← (field "author").bind asStr
  let description ← (field "description").bind asStr
  let capabilities ← readDefault (readList asStr) [] (field "capabilities")
  let trustTier ← readDefault asStr "" (field "trust_tier")
  pure { id, version, author, description, capabilities, trustTier }

/-- What serde makes of a value where a `PluginInfo` is expected: the members of an object by
their names, or the elements of an array by their positions. -/
def PluginInfo.read : Json → Option PluginInfo
  | .object members => ofFields fun name => members.lookup name
  | .array elements =>
      if elements.length ≤ fields.length then
        ofFields fun name => (fields.zip elements).lookup name
      else none
  | _ => none

/-- What `PluginBridge::call` makes of a response, or `none` for an error. -/
def callResult (response : JsonRpcResponse Json) : Option Json :=
  match response.error with
  | some _ => none
  | none => some (response.result.getD .null)

/-- `PluginBridge::list_plugins`, once it has read the response. -/
def listPlugins (response : JsonRpcResponse Json) : Option (List PluginInfo) := do
  let result ← callResult response
  readList PluginInfo.read ((result.get? "plugins").getD (.array []))

/-- `query_host_list`, once it has read the response. -/
def queryHostList (response : Json) : Option (List Json) :=
  readList some ((response.get? "result").getD (.array []))

/-- An entry of the agent's list carries the id, version, tier and capabilities of a manifest. -/
structure Describes (info : PluginInfo) (manifest : PluginManifest) : Prop where
  id : info.id = manifest.id
  version : info.version = manifest.version
  trustTier : info.trustTier = manifest.trustTier.variant
  capabilities : info.capabilities = manifest.capabilities.map Capability.display

/-- The agent accepts the reply, and its entries describe the manifests. -/
def AgentReads (manifests : List PluginManifest) (id : Option Json) : Prop :=
  ∃ infos, listPlugins (pluginListResponse manifests id) = some infos ∧
    List.Forall₂ Describes infos manifests

/-- The CLI accepts the reply, and its entries are the manifests as the host has written them. -/
def CliReads (manifests : List PluginManifest) (id : Option Json) : Prop :=
  queryHostList (responseJson (pluginListResponse manifests id)) =
    some (manifests.map manifestJson)

/-- A capability has data. -/
def hasData : Capability → Bool
  | .network _ | .storage _ | .agentMessage _ => true
  | _ => false

/-! ## What the agent reads -/

/-- Reading each element of a list, where some elements can be read and all others not. -/
theorem map_m_eq_ite {Source Target : Type} {read : Source → Option Target}
    {readable : Source → Bool} {value : Source → Target}
    (hread : ∀ source, read source = if readable source then some (value source) else none)
    (sources : List Source) :
    sources.mapM read = if sources.all readable then some (sources.map value) else none := by
  induction sources with
  | nil => rfl
  | cons source rest ih =>
      rw [List.mapM_cons, hread, ih, List.all_cons]
      by_cases hsource : readable source = true
      · by_cases hrest : rest.all readable = true
        · simp [hsource, hrest]
        · simp [hsource, hrest]
      · simp [hsource]

/-- Only a capability without data is read as a string. -/
theorem as_str_capability_json (capability : Capability) :
    asStr (capabilityJson capability) =
      if !hasData capability then some capability.display else none := by
  cases capability <;> rfl

/-- The entry that the agent makes of a manifest. -/
def infoOf (manifest : PluginManifest) : PluginInfo where
  id := manifest.id
  version := manifest.version
  author := manifest.author
  description := manifest.description
  capabilities := manifest.capabilities.map Capability.display
  trustTier := manifest.trustTier.variant

/-- Only a manifest in which no capability has data is read. -/
theorem read_manifest_json (manifest : PluginManifest) :
    PluginInfo.read (manifestJson manifest) =
      if manifest.capabilities.all fun capability => !hasData capability then
        some (infoOf manifest)
      else none := by
  have hcapabilities : readList asStr (.array (manifest.capabilities.map capabilityJson)) =
      if manifest.capabilities.all fun capability => !hasData capability then
        some (manifest.capabilities.map Capability.display)
      else none := by
    show (manifest.capabilities.map capabilityJson).mapM asStr = _
    rw [List.mapM_map]
    exact map_m_eq_ite as_str_capability_json _
  show (readList asStr (.array (manifest.capabilities.map capabilityJson))).bind _ = _
  rw [hcapabilities]
  split <;> rfl

/-- The agent accepts the reply if and only if no capability has data, and then its entries are
those of the manifests. -/
theorem list_plugins_eq (manifests : List PluginManifest) (id : Option Json) :
    listPlugins (pluginListResponse manifests id) =
      if manifests.all fun manifest => manifest.capabilities.all fun capability =>
          !hasData capability then
        some (manifests.map infoOf)
      else none := by
  show (manifests.map manifestJson).mapM PluginInfo.read = _
  rw [List.mapM_map]
  exact map_m_eq_ite read_manifest_json manifests

/-- The agent reads the reply if and only if no capability has data. -/
theorem agent_reads_iff (manifests : List PluginManifest) (id : Option Json) :
    AgentReads manifests id ↔
      ∀ manifest ∈ manifests, ∀ capability ∈ manifest.capabilities,
        hasData capability = false := by
  unfold AgentReads
  rw [list_plugins_eq]
  constructor
  · rintro ⟨infos, hread, _⟩
    split at hread
    · rename_i hall
      simpa using hall
    · cases hread
  · intro hall
    refine ⟨manifests.map infoOf, if_pos (by simpa using hall), ?_⟩
    rw [List.forall₂_map_left_iff]
    exact List.forall₂_same.mpr fun manifest _ => ⟨rfl, rfl, rfl, rfl⟩

/-- The CLI reads no reply: it expects a list where the host has put an object. -/
theorem not_cli_reads (manifests : List PluginManifest) (id : Option Json) :
    ¬ CliReads manifests id := by
  intro hread
  cases hread

/-- No reply to `plugin.list` is read by both clients. The CLI reads none, and the agent reads a
reply if and only if no capability of a registered plugin has data. -/
theorem plugin_list_unreadable (manifests : List PluginManifest) (id : Option Json) :
    ¬ (AgentReads manifests id ∧ CliReads manifests id) ∧
      (AgentReads manifests id ↔
        ∀ manifest ∈ manifests, ∀ capability ∈ manifest.capabilities,
          hasData capability = false) :=
  ⟨fun h => not_cli_reads manifests id h.2, agent_reads_iff manifests id⟩

/-- Neither client reads the reply of a host with a plugin that asks for the network. -/
theorem network_plugin_unreadable :
    ¬ AgentReads [Host.Invoke.sampleManifest [.network ["example.com"]]] (some (.number 1 0)) ∧
      ¬ CliReads [Host.Invoke.sampleManifest [.network ["example.com"]]]
        (some (.number 1 0)) := by
  refine ⟨?_, not_cli_reads _ _⟩
  rintro ⟨infos, hread, _⟩
  cases hread

end CorvidNano.Bridge.PluginList
