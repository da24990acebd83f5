import CorvidNano.Bridge.Outcome
import CorvidNano.Host.Registry
import CorvidNano.Server.Tools

/-!
# Routes to the tools of plugins

The route `POST /api/plugins/:id/invoke/:tool` in `routes/plugins.ts`, and the tools that it is
to reach: the host lists them from the manifests that it has accepted, and the bridge registers
what the host lists. The host checks the plugin ids and no tool names, the route and the bridge
check both, with different expressions for the names of tools.
-/

namespace CorvidNano.Server.Routes

open Bridge.Outcome Host Loader Registry Runs Sdk Tools

/-! ## The route -/

/-- `PLUGIN_ID_RE` of the routes, `^[a-z][a-z0-9-]{0,49}$`. -/
def routeIdRe (text : String) : Bool :=
  Text.matchesName Char.isLower (fun c => c.isLower || c.isDigit || c == '-') 49 text

/-- `TOOL_NAME_RE` of the routes, `^[a-z_][a-z0-9_]{0,63}$`. -/
def routeToolRe (text : String) : Bool :=
  Text.matchesName (fun c => c.isLower || c == '_')
    (fun c => c.isLower || c.isDigit || c == '_') 63 text

/-- What the route finds wrong with its parameters. One that is missing is empty. -/
def paramsError (id tool : String) : Option String :=
  if id = "" ∨ tool = "" then some "missing plugin id or tool name"
  else if routeIdRe id = false then some "invalid plugin id"
  else if routeToolRe tool = false then some "invalid tool name"
  else none

/-- A response of a route. -/
structure Response where
  status : Nat
  body : Json

/-- A response with an error. -/
def Response.error (status : Nat) (text : String) : Response where
  status := status
  body := .object [("error", .string text)]

/-- The response for what `PluginBridge.invoke` settles with. -/
def Response.ofSettled : Settled → Response
  | .resolved result => { status := 200, body := .object [("result", result)] }
  | .rejected error =>
      { status := error.status.getD 500
        body := .object [("error", .string error.message), ("retryable", .bool error.retryable)] }

/-- The invoke route. The body is `none` if it is not JSON. -/
def invokeRoute (connected : Bool) (id tool : String) (body : Option Json)
    (invoke : String → String → Json → Settled) : Response :=
  if connected = false then .error 503 "plugin host not connected"
  else
    match paramsError id tool with
    | some text => .error 400 text
    | none =>
        match body with
        | none => .error 400 "invalid request body: expected JSON"
        | some input => .ofSettled (invoke id tool input)

/-! ## The listed tools -/

/-- The entry of `list_tools` for a tool of a plugin. -/
def listedTool (pluginId : String) (tool : ToolInfo) : Entry Json where
  pluginId := pluginId
  tool := {
    name := tool.name
    description := tool.description
    inputSchema := tool.inputSchema }

/-- `list_tools`: the tools of the manifests, or of those with the id. -/
def listTools (manifests : List PluginManifest) (pluginId : Option String) : List (Entry Json) :=
  (manifests.filter fun manifest => pluginId.all (manifest.id == ·)).flatMap fun manifest =>
    manifest.tools.map (listedTool manifest.id)

/-- The route and the bridge let the name of a tool pass, and the registry has under it a tool of
that plugin with that name. -/
structure Invocable (tools : ToolSets Json) (entry : Entry Json) : Prop where
  route : paramsError entry.pluginId entry.tool.name = none
  bridge : pluginIdRe entry.pluginId = true ∧ toolNameRe entry.tool.name = true
  resolves : ∃ found, tools.registry (toolName entry.pluginId entry.tool.name) = some found ∧
    found.pluginId = entry.pluginId ∧ found.tool.name = entry.tool.name

/-- Every listed tool can be invoked, and no two of them have one name in the registry. -/
structure AllInvocable (tools : ToolSets Json) (entries : List (Entry Json)) : Prop where
  invocable : ∀ entry ∈ entries, Invocable tools entry
  distinct : ∀ entry ∈ entries, ∀ other ∈ entries,
    toolName entry.pluginId entry.tool.name = toolName other.pluginId other.tool.name →
      entry = other

/-- The names that both the route and the bridge let pass, `^[a-z][a-z0-9_]{0,63}$`. -/
def commonToolRe (text : String) : Bool :=
  Text.matchesName Char.isLower (fun c => c.isLower || c.isDigit || c == '_') 63 text

/-! ## Names -/

theorem common_tool_re_iff {text : String} :
    routeToolRe text = true ∧ toolNameRe text = true ↔ commonToolRe text = true := by
  have hhead : (fun c : Char => (c.isLower || c == '_') && c.isLower) = Char.isLower := by
    funext c
    cases c.isLower with
    | false => simp
    | true => simp
  have htail : (fun c : Char => (c.isLower || c.isDigit || c == '_') &&
      (c.isLower || c.isDigit || c == '_' || c == '-')) =
        fun c => c.isLower || c.isDigit || c == '_' := by
    funext c
    cases (c.isLower || c.isDigit || c == '_') with
    | false => rfl
    | true => rfl
  unfold routeToolRe toolNameRe commonToolRe
  rw [Text.matches_name_and, hhead, htail]

/-- A name that matches an expression is not empty. -/
theorem ne_empty_of_matches {head tail : Char → Bool} {max : Nat} {text : String}
    (h : Text.matchesName head tail max text = true) : text ≠ "" := by
  rintro rfl
  cases h

/-- The route lets exactly the names pass that its two expressions match. -/
theorem params_error_eq_none {id tool : String} :
    paramsError id tool = none ↔ routeIdRe id = true ∧ routeToolRe tool = true := by
  unfold paramsError
  constructor
  · intro h
    split at h
    · cases h
    · split at h
      · cases h
      · split at h
        · cases h
        · rename_i hid htool
          exact ⟨Bool.eq_true_of_not_eq_false hid, Bool.eq_true_of_not_eq_false htool⟩
  · rintro ⟨hid, htool⟩
    rw [if_neg (not_or.2 ⟨ne_empty_of_matches hid, ne_empty_of_matches htool⟩),
      if_neg (by simp [hid]), if_neg (by simp [htool])]

/-! ## Listed tools -/

theorem listed_tool_injective {first second : String} {tool other : ToolInfo}
    (h : listedTool first tool = listedTool second other) : tool = other := by
  obtain ⟨name, description, inputSchema⟩ := tool
  obtain ⟨otherName, otherDescription, otherSchema⟩ := other
  cases h
  rfl

/-- A listed tool is one of a manifest, under the id of that manifest. -/
theorem mem_list_tools {manifests : List PluginManifest} {entry : Entry Json} :
    entry ∈ listTools manifests none ↔
      ∃ manifest ∈ manifests, ∃ tool ∈ manifest.tools, listedTool manifest.id tool = entry := by
  simp [listTools]

/-- The ids of listed tools are those of accepted manifests. -/
theorem id_re_of_listed {semver : Semver} {manifests : List PluginManifest}
    (haccepted : ∀ manifest ∈ manifests, validateManifest semver manifest = .ok ())
    {entry : Entry Json} (h : entry ∈ listTools manifests none) : idRe entry.pluginId = true := by
  obtain ⟨manifest, hmanifest, tool, -, rfl⟩ := mem_list_tools.1 h
  exact (validate_manifest_eq_ok.1 (haccepted manifest hmanifest)).1

theorem colon_not_mem_of_id_re {id : String} (h : idRe id = true) : ':' ∉ id.toList :=
  Text.not_mem_of_matches_name (by decide) (by decide) h

/-- Whatever the names of the tools are, the registry leads each listed tool of accepted manifests
to its plugin and its name. -/
theorem listed_resolves {semver : Semver} {manifests : List PluginManifest}
    (haccepted : ∀ manifest ∈ manifests, validateManifest semver manifest = .ok ())
    (tools : ToolSets Json) {entry : Entry Json} (h : entry ∈ listTools manifests none) :
    ∃ found, (registerEntries tools (listTools manifests none)).registry
        (toolName entry.pluginId entry.tool.name) = some found ∧
      found.pluginId = entry.pluginId ∧ found.tool.name = entry.tool.name :=
  register_entries_resolves
    (fun _ hother => colon_not_mem_of_id_re (id_re_of_listed haccepted hother)) h

/-- A host that has handled any requests lists only tools that the registry leads to. -/
theorem listed_resolves_after_run {platform : Platform} {requests : List Request}
    {server : Registry.Server platform}
    (hrun : run step (Server.start platform) requests = some server) (tools : ToolSets Json)
    {entry : Entry Json} (h : entry ∈ listTools (listManifests server.slots) none) :
    ∃ found, (registerEntries tools (listTools (listManifests server.slots) none)).registry
        (toolName entry.pluginId entry.tool.name) = some found ∧
      found.pluginId = entry.pluginId ∧ found.tool.name = entry.tool.name :=
  listed_resolves (validated_of_listed hrun) tools h

/-- A listed tool of accepted manifests can be invoked if and only if its name is one that both the
route and the bridge let pass. -/
theorem invocable_iff {semver : Semver} {manifests : List PluginManifest}
    (haccepted : ∀ manifest ∈ manifests, validateManifest semver manifest = .ok ())
    (tools : ToolSets Json) {entry : Entry Json} (h : entry ∈ listTools manifests none) :
    Invocable (registerEntries tools (listTools manifests none)) entry ↔
      commonToolRe entry.tool.name = true := by
  have hid := id_re_of_listed haccepted h
  rw [← common_tool_re_iff]
  constructor
  · intro hinvocable
    exact ⟨(params_error_eq_none.1 hinvocable.route).2, hinvocable.bridge.2⟩
  · rintro ⟨hroute, hbridge⟩
    exact {
      route := params_error_eq_none.2 ⟨hid, hroute⟩
      bridge := ⟨hid, hbridge⟩
      resolves := listed_resolves haccepted tools h }

/-- The tools of accepted manifests can all be invoked, each under a name of its own, if and only
if both the route and the bridge let their names pass and no two tools of a plugin share one. -/
theorem all_invocable_iff {semver : Semver} {manifests : List PluginManifest}
    (haccepted : ∀ manifest ∈ manifests, validateManifest semver manifest = .ok ())
    (tools : ToolSets Json) :
    AllInvocable (registerEntries tools (listTools manifests none)) (listTools manifests none) ↔
      (∀ manifest ∈ manifests, ∀ tool ∈ manifest.tools, commonToolRe tool.name = true) ∧
      ∀ first ∈ manifests, ∀ second ∈ manifests, first.id = second.id →
        ∀ tool ∈ first.tools, ∀ other ∈ second.tools, tool.name = other.name → tool = other := by
  constructor
  · intro h
    constructor
    · intro manifest hmanifest tool htool
      have hmem := mem_list_tools.2 ⟨manifest, hmanifest, tool, htool, rfl⟩
      exact (invocable_iff haccepted tools hmem).1 (h.invocable _ hmem)
    · intro first hfirst second hsecond hid tool htool other hother hname
      have hnames : toolName first.id tool.name = toolName second.id other.name := by
        rw [hid, hname]
      have heq := h.distinct _ (mem_list_tools.2 ⟨first, hfirst, tool, htool, rfl⟩) _
        (mem_list_tools.2 ⟨second, hsecond, other, hother, rfl⟩) hnames
      exact listed_tool_injective heq
  · rintro ⟨hnames, hdistinct⟩
    constructor
    · intro entry hmem
      refine (invocable_iff haccepted tools hmem).2 ?_
      obtain ⟨manifest, hmanifest, tool, htool, rfl⟩ := mem_list_tools.1 hmem
      exact hnames manifest hmanifest tool htool
    · intro entry hentry other hother hname
      obtain ⟨hid, hname⟩ := tool_name_injective
        (colon_not_mem_of_id_re (id_re_of_listed haccepted hentry))
        (colon_not_mem_of_id_re (id_re_of_listed haccepted hother)) hname
      obtain ⟨first, hfirst, tool, htool, rfl⟩ := mem_list_tools.1 hentry
      obtain ⟨second, hsecond, same, hsame, rfl⟩ := mem_list_tools.1 hother
      have hsameId : first.id = second.id := hid
      rw [hdistinct first hfirst second hsecond hsameId tool htool same hsame hname, hsameId]

/-! ## A hyphen in the name of a tool -/

/-- The sample plugin with one tool. -/
def priceManifest (tool : String) : PluginManifest :=
  { Invoke.sampleManifest [] with
    tools := [{ name := tool, description := "The price.", inputSchema := .object [] }] }

/-- `all_invocable_iff` for a name with an underscore. -/
theorem all_invocable_underscore :
    AllInvocable (registerEntries .empty (listTools [priceManifest "get_price"] none))
      (listTools [priceManifest "get_price"] none) := by
  have haccepted : ∀ manifest ∈ [priceManifest "get_price"],
      validateManifest Invoke.samplePlatform.semver manifest = .ok () :=
    List.forall_mem_singleton.2 rfl
  refine (all_invocable_iff haccepted .empty).2 ⟨?_, ?_⟩
  · exact List.forall_mem_singleton.2 (List.forall_mem_singleton.2 (by decide))
  · intro first hfirst second hsecond _ tool htool other hother _
    rw [List.mem_singleton.1 hfirst] at htool
    rw [List.mem_singleton.1 hsecond] at hother
    rw [List.mem_singleton.1 htool, List.mem_singleton.1 hother]

/-- A tool whose name has a hyphen is registered and passes the bridge, but not the route. -/
theorem hyphen_not_invocable :
    validateManifest Invoke.samplePlatform.semver (priceManifest "get-price") = .ok () ∧
      toolNameRe "get-price" = true ∧
      paramsError "sample" "get-price" = some "invalid tool name" ∧
      ¬ AllInvocable (registerEntries .empty (listTools [priceManifest "get-price"] none))
        (listTools [priceManifest "get-price"] none) := by
  refine ⟨rfl, by decide, by decide, fun h => ?_⟩
  have hmem := mem_list_tools.2 ⟨_, List.mem_singleton_self (priceManifest "get-price"), _,
    List.mem_singleton_self _, rfl⟩
  exact absurd (h.invocable _ hmem).route (by decide)

end CorvidNano.Server.Routes
