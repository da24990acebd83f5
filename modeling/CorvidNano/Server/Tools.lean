import CorvidNano.Library.Text
import Mathlib.Data.Finset.Dedup
import Mathlib.Data.Finset.Insert
import Mathlib.Data.Finset.SDiff
import Mathlib.Data.List.Induction
import Mathlib.Logic.Function.Basic

/-!
# Tools of the TypeScript bridge

The part of `rust-bridge.ts` that keeps the tools of the plugins in the shared registry. It has
the names in `registeredTools` and again by plugin in `pluginToolsByPlugin`. `agree_register`,
`agree_refresh` and `agree_unregister_all` say that the three stay together as long as no two
plugins have tools with one name, and `refresh_register` that what is registered for one plugin
does not depend on what is done to another.
-/

namespace CorvidNano.Server.Tools

variable {Schema : Type}

/-- `WireToolInfo`. -/
structure WireToolInfo (Schema : Type) where
  name : String
  description : String
  inputSchema : Schema
  deriving DecidableEq

/-- A tool of a plugin in the registry. Its `execute` invokes the tool of that plugin. -/
structure Entry (Schema : Type) where
  pluginId : String
  tool : WireToolInfo Schema
  deriving DecidableEq

/-- The tools that the bridge has in the shared registry, `registeredTools`, and
`pluginToolsByPlugin`, where a plugin without a set has none. -/
structure ToolSets (Schema : Type) where
  registry : String → Option (Entry Schema)
  registered : Finset String
  byPlugin : String → Finset String

/-- No tools. -/
def ToolSets.empty : ToolSets Schema where
  registry _ := none
  registered := ∅
  byPlugin _ := ∅

/-- The name of a tool in the registry. -/
def toolName (pluginId name : String) : String :=
  "plugin:" ++ pluginId ++ ":" ++ name

/-- `registerPluginTool`. -/
def registerPluginTool (tools : ToolSets Schema) (pluginId : String)
    (rawTool : WireToolInfo Schema) : ToolSets Schema :=
  let name := toolName pluginId rawTool.name
  { registry := Function.update tools.registry name (some { pluginId, tool := rawTool })
    registered := insert name tools.registered
    byPlugin := Function.update tools.byPlugin pluginId (insert name (tools.byPlugin pluginId)) }

/-- `unregisterAllTools`. -/
def unregisterAllTools (tools : ToolSets Schema) : ToolSets Schema where
  registry name := if name ∈ tools.registered then none else tools.registry name
  registered := ∅
  byPlugin _ := ∅

/-- The first part of `refreshPluginTools`, which unregisters the old tools of the plugin. -/
def unregisterPluginTools (tools : ToolSets Schema) (pluginId : String) : ToolSets Schema where
  registry name := if name ∈ tools.byPlugin pluginId then none else tools.registry name
  registered := tools.registered \ tools.byPlugin pluginId
  byPlugin := Function.update tools.byPlugin pluginId ∅

/-- `refreshPluginTools`. -/
def refreshPluginTools (tools : ToolSets Schema) (pluginId : String)
    (rawTools : List (WireToolInfo Schema)) : ToolSets Schema :=
  rawTools.foldl (fun tools rawTool => registerPluginTool tools pluginId rawTool)
    (unregisterPluginTools tools pluginId)

/-- The last part of `refreshTools`, which registers what the host listed. -/
def registerEntries (tools : ToolSets Schema) (entries : List (Entry Schema)) : ToolSets Schema :=
  entries.foldl (fun tools entry => registerPluginTool tools entry.pluginId entry.tool) tools

/-- The registry has the tools of `registeredTools`. -/
def Registered (tools : ToolSets Schema) : Prop :=
  ∀ name, name ∈ tools.registered ↔ tools.registry name ≠ none

/-- The three collections have the same tools. -/
structure Agree (tools : ToolSets Schema) : Prop where
  registry : Registered tools
  byPlugin : ∀ name, name ∈ tools.registered ↔ ∃ pluginId, name ∈ tools.byPlugin pluginId

/-- Every name is that of a tool of the plugin that owns it. -/
def Owned (owner : String → String) (tools : ToolSets Schema) : Prop :=
  ∀ pluginId, ∀ name ∈ tools.byPlugin pluginId, owner name = pluginId

/-- The names of the tools are owned by the plugin. -/
def OwnsAll (owner : String → String) (pluginId : String)
    (rawTools : List (WireToolInfo Schema)) : Prop :=
  ∀ rawTool ∈ rawTools, owner (toolName pluginId rawTool.name) = pluginId

/-- The names of the listed tools are owned by their plugins. -/
def OwnsEntries (owner : String → String) (entries : List (Entry Schema)) : Prop :=
  ∀ entry ∈ entries, owner (toolName entry.pluginId entry.tool.name) = entry.pluginId

variable {owner : String → String} {tools : ToolSets Schema}

/-! ## Agreement -/

theorem registered_empty : Registered (.empty : ToolSets Schema) := by
  intro name
  simp [ToolSets.empty]

theorem registered_unregister_all (h : Registered tools) :
    Registered (unregisterAllTools tools) := by
  intro name
  by_cases hname : name ∈ tools.registered
  · simp [unregisterAllTools, hname]
  · have hnone := (not_congr (h name)).mp hname
    simpa [unregisterAllTools, hname] using hnone

/-- Nothing is left in the registry. -/
theorem registry_unregister_all (h : Registered tools) (name : String) :
    (unregisterAllTools tools).registry name = none := by
  have hnone := not_congr (registered_unregister_all h name)
  simpa [unregisterAllTools] using hnone

theorem registered_register (h : Registered tools) (pluginId : String)
    (rawTool : WireToolInfo Schema) : Registered (registerPluginTool tools pluginId rawTool) := by
  intro name
  by_cases hname : name = toolName pluginId rawTool.name
  · simp [registerPluginTool, hname]
  · simp [registerPluginTool, hname, h name]

theorem registered_unregister_plugin (h : Registered tools) (pluginId : String) :
    Registered (unregisterPluginTools tools pluginId) := by
  intro name
  by_cases hname : name ∈ tools.byPlugin pluginId
  · simp [unregisterPluginTools, hname]
  · simp [unregisterPluginTools, hname, h name]

theorem agree_empty : Agree (.empty : ToolSets Schema) where
  registry := registered_empty
  byPlugin name := by simp [ToolSets.empty]

theorem owned_empty : Owned owner (.empty : ToolSets Schema) := by
  intro pluginId name hname
  simp [ToolSets.empty] at hname

theorem agree_unregister_all (h : Agree tools) : Agree (unregisterAllTools tools) where
  registry := registered_unregister_all h.registry
  byPlugin name := by simp [unregisterAllTools]

theorem owned_unregister_all : Owned owner (unregisterAllTools tools) := by
  intro pluginId name hname
  simp [unregisterAllTools] at hname

/-- A tool that is registered is added to all three collections. -/
theorem agree_register (h : Agree tools) (pluginId : String) (rawTool : WireToolInfo Schema) :
    Agree (registerPluginTool tools pluginId rawTool) where
  registry := registered_register h.registry pluginId rawTool
  byPlugin name := by
    simp only [registerPluginTool, Finset.mem_insert, h.byPlugin name]
    constructor
    · rintro (rfl | ⟨other, hother⟩)
      · exact ⟨pluginId, by simp⟩
      · refine ⟨other, ?_⟩
        by_cases heq : other = pluginId
        · subst heq
          simp [hother]
        · simpa [Function.update_of_ne heq] using hother
    · rintro ⟨other, hother⟩
      by_cases heq : other = pluginId
      · subst heq
        rw [Function.update_self, Finset.mem_insert] at hother
        exact hother.imp_right fun hother => ⟨other, hother⟩
      · rw [Function.update_of_ne heq] at hother
        exact .inr ⟨other, hother⟩

theorem owned_register (h : Owned owner tools) {pluginId : String} {rawTool : WireToolInfo Schema}
    (hname : owner (toolName pluginId rawTool.name) = pluginId) :
    Owned owner (registerPluginTool tools pluginId rawTool) := by
  intro other name hother
  by_cases heq : other = pluginId
  · subst heq
    simp only [registerPluginTool, Function.update_self, Finset.mem_insert] at hother
    rcases hother with rfl | hother
    · exact hname
    · exact h other name hother
  · simp only [registerPluginTool, Function.update_of_ne heq] at hother
    exact h other name hother

/-- The old tools of a plugin are removed from all three collections. -/
theorem agree_unregister_plugin (h : Agree tools) (howned : Owned owner tools)
    (pluginId : String) : Agree (unregisterPluginTools tools pluginId) where
  registry := registered_unregister_plugin h.registry pluginId
  byPlugin name := by
    simp only [unregisterPluginTools, Finset.mem_sdiff, h.byPlugin name]
    constructor
    · rintro ⟨⟨other, hother⟩, hname⟩
      have hne : other ≠ pluginId := fun heq => hname (heq ▸ hother)
      exact ⟨other, by rwa [Function.update_of_ne hne]⟩
    · rintro ⟨other, hother⟩
      by_cases heq : other = pluginId
      · subst heq
        simp at hother
      · rw [Function.update_of_ne heq] at hother
        refine ⟨⟨other, hother⟩, fun hname => heq ?_⟩
        rw [← howned other name hother, howned pluginId name hname]

theorem owned_unregister_plugin (h : Owned owner tools) (pluginId : String) :
    Owned owner (unregisterPluginTools tools pluginId) := by
  intro other name hother
  by_cases heq : other = pluginId
  · subst heq
    simp [unregisterPluginTools] at hother
  · simp only [unregisterPluginTools, Function.update_of_ne heq] at hother
    exact h other name hother

/-- Tools that are registered one after the other keep what each of them keeps. -/
theorem foldl_register {Inv : ToolSets Schema → Prop} {pluginId : String}
    {rawTools : List (WireToolInfo Schema)}
    (hstep : ∀ tools, ∀ rawTool ∈ rawTools, Inv tools →
      Inv (registerPluginTool tools pluginId rawTool))
    (h : Inv tools) :
    Inv (rawTools.foldl (fun tools rawTool => registerPluginTool tools pluginId rawTool)
      tools) := by
  induction rawTools generalizing tools with
  | nil => exact h
  | cons rawTool rest ih =>
      refine ih (fun tools other hother => hstep tools other (List.mem_cons_of_mem _ hother)) ?_
      exact hstep tools rawTool (by simp) h

/-- What every tool keeps is kept by the entries that the host listed. -/
theorem register_entries_invariant {Inv : ToolSets Schema → Prop} {entries : List (Entry Schema)}
    (hstep : ∀ tools, ∀ entry ∈ entries, Inv tools →
      Inv (registerPluginTool tools entry.pluginId entry.tool))
    (h : Inv tools) : Inv (registerEntries tools entries) := by
  induction entries generalizing tools with
  | nil => exact h
  | cons entry rest ih =>
      refine ih (fun tools other hother => hstep tools other (List.mem_cons_of_mem _ hother)) ?_
      exact hstep tools entry (by simp) h

theorem registered_refresh (h : Registered tools) (pluginId : String)
    (rawTools : List (WireToolInfo Schema)) :
    Registered (refreshPluginTools tools pluginId rawTools) :=
  foldl_register (fun _ rawTool _ h => registered_register h pluginId rawTool)
    (registered_unregister_plugin h pluginId)

theorem registered_register_entries (h : Registered tools) (entries : List (Entry Schema)) :
    Registered (registerEntries tools entries) :=
  register_entries_invariant
    (fun _ entry _ h => registered_register h entry.pluginId entry.tool) h

theorem agree_refresh (h : Agree tools) (howned : Owned owner tools) (pluginId : String)
    (rawTools : List (WireToolInfo Schema)) : Agree (refreshPluginTools tools pluginId rawTools) :=
  foldl_register (fun _ rawTool _ h => agree_register h pluginId rawTool)
    (agree_unregister_plugin h howned pluginId)

theorem owned_refresh (h : Owned owner tools) {pluginId : String}
    {rawTools : List (WireToolInfo Schema)} (hraw : OwnsAll owner pluginId rawTools) :
    Owned owner (refreshPluginTools tools pluginId rawTools) :=
  foldl_register (fun _ rawTool hmem h => owned_register h (hraw rawTool hmem))
    (owned_unregister_plugin h pluginId)

theorem agree_register_entries (h : Agree tools) (entries : List (Entry Schema)) :
    Agree (registerEntries tools entries) :=
  register_entries_invariant (fun _ entry _ h => agree_register h entry.pluginId entry.tool) h

theorem owned_register_entries (h : Owned owner tools) {entries : List (Entry Schema)}
    (hentries : OwnsEntries owner entries) : Owned owner (registerEntries tools entries) :=
  register_entries_invariant (fun _ entry hmem h => owned_register h (hentries entry hmem)) h

/-! ## One plugin and the others -/

/-- What the bridge has for a plugin: its set, and the entries under the names that it owns. -/
def SameFor (owner : String → String) (pluginId : String) (first second : ToolSets Schema) : Prop :=
  first.byPlugin pluginId = second.byPlugin pluginId ∧
    ∀ name, owner name = pluginId → first.registry name = second.registry name

theorem SameFor.trans {pluginId : String} {first second third : ToolSets Schema}
    (hfirst : SameFor owner pluginId first second) (hsecond : SameFor owner pluginId second third) :
    SameFor owner pluginId first third :=
  ⟨hfirst.1.trans hsecond.1, fun name hname => (hfirst.2 name hname).trans (hsecond.2 name hname)⟩

theorem same_for_register {pluginId other : String} {rawTool : WireToolInfo Schema}
    (hname : owner (toolName pluginId rawTool.name) = pluginId) (hne : other ≠ pluginId) :
    SameFor owner other (registerPluginTool tools pluginId rawTool) tools := by
  refine ⟨Function.update_of_ne hne _ _, fun name howner => Function.update_of_ne ?_ _ _⟩
  rintro rfl
  exact hne (howner.symm.trans hname)

theorem same_for_unregister_plugin (h : Owned owner tools) {pluginId other : String}
    (hne : other ≠ pluginId) :
    SameFor owner other (unregisterPluginTools tools pluginId) tools := by
  refine ⟨Function.update_of_ne hne _ _, fun name howner => if_neg fun hmem => ?_⟩
  exact hne (howner.symm.trans (h pluginId name hmem))

/-- A refresh of a plugin changes nothing of another one. -/
theorem same_for_refresh (h : Owned owner tools) {pluginId other : String}
    {rawTools : List (WireToolInfo Schema)} (hraw : OwnsAll owner pluginId rawTools)
    (hne : other ≠ pluginId) :
    SameFor owner other (refreshPluginTools tools pluginId rawTools) tools := by
  have hstep : ∀ after, ∀ rawTool ∈ rawTools, SameFor owner other after tools →
      SameFor owner other (registerPluginTool after pluginId rawTool) tools :=
    fun after rawTool hmem hsame => (same_for_register (hraw rawTool hmem) hne).trans hsame
  exact foldl_register hstep (same_for_unregister_plugin h hne)

/-- The entry of a name among the tools of a plugin. The last tool with the name wins. -/
def entryOf (pluginId : String) (rawTools : List (WireToolInfo Schema)) (name : String) :
    Option (Entry Schema) :=
  rawTools.foldl
    (fun last rawTool =>
      if name = toolName pluginId rawTool.name then some { pluginId, tool := rawTool } else last)
    none

/-- After a refresh the plugin has the tools of the refresh and no others. -/
theorem refresh_eq (hagree : Agree tools) (howned : Owned owner tools) {pluginId : String}
    (rawTools : List (WireToolInfo Schema)) :
    (refreshPluginTools tools pluginId rawTools).byPlugin pluginId =
        (rawTools.map fun rawTool => toolName pluginId rawTool.name).toFinset ∧
      ∀ name, owner name = pluginId →
        (refreshPluginTools tools pluginId rawTools).registry name =
          entryOf pluginId rawTools name := by
  induction rawTools using List.reverseRecOn with
  | nil =>
      refine ⟨Function.update_self .., fun name hname => ?_⟩
      by_cases hmem : name ∈ tools.byPlugin pluginId
      · exact if_pos hmem
      · refine (if_neg hmem).trans ?_
        -- A name of the plugin that is registered is in the set of the plugin.
        by_contra hsome
        obtain ⟨other, hother⟩ := (hagree.byPlugin name).mp ((hagree.registry name).mpr hsome)
        rw [← howned other name hother, hname] at hother
        exact hmem hother
  | append_singleton rawTools rawTool ih =>
      obtain ⟨hset, hregistry⟩ := ih
      have hrefresh : refreshPluginTools tools pluginId (rawTools ++ [rawTool]) =
          registerPluginTool (refreshPluginTools tools pluginId rawTools) pluginId rawTool :=
        List.foldl_concat ..
      rw [hrefresh]
      refine ⟨?_, fun name hname => ?_⟩
      · ext name
        simp only [registerPluginTool, hset, Function.update_self, Finset.mem_insert,
          List.mem_toFinset, List.mem_map, List.map_append, List.map_cons, List.map_nil,
          List.mem_append, List.mem_singleton]
        exact or_comm
      · show Function.update _ _ _ name = _
        rw [entryOf, List.foldl_concat, Function.update_apply]
        exact if_congr Iff.rfl rfl (hregistry name hname)

/-! ## Names -/

/-- The name in the registry determines a plugin whose id has no colon, and its tool. -/
theorem tool_name_injective {first second name other : String} (hfirst : ':' ∉ first.toList)
    (hsecond : ':' ∉ second.toList) (h : toolName first name = toolName second other) :
    first = second ∧ name = other := by
  have hlists : first.toList ++ ':' :: name.toList = second.toList ++ ':' :: other.toList := by
    have h := congrArg String.toList h
    simpa [toolName] using h
  obtain ⟨hid, hname⟩ := Text.append_cons_inj hfirst hsecond hlists
  exact ⟨String.toList_inj.1 hid, String.toList_inj.1 hname⟩

/-- After the listed tools are registered, each name leads to the plugin and the tool that it was
registered for. -/
theorem register_entries_resolves {entries : List (Entry Schema)}
    (hids : ∀ entry ∈ entries, ':' ∉ entry.pluginId.toList) {entry : Entry Schema}
    (hmem : entry ∈ entries) :
    ∃ found, (registerEntries tools entries).registry
        (toolName entry.pluginId entry.tool.name) = some found ∧
      found.pluginId = entry.pluginId ∧ found.tool.name = entry.tool.name := by
  induction entries using List.reverseRecOn with
  | nil => cases hmem
  | append_singleton entries last ih =>
      have hconcat : registerEntries tools (entries ++ [last]) =
          registerPluginTool (registerEntries tools entries) last.pluginId last.tool :=
        List.foldl_concat ..
      rw [hconcat]
      by_cases hname : toolName entry.pluginId entry.tool.name =
          toolName last.pluginId last.tool.name
      · -- the last tool has the name, and then also the plugin and its own name
        obtain ⟨hid, htool⟩ :=
          tool_name_injective (hids entry hmem) (hids last (by simp)) hname
        refine ⟨{ pluginId := last.pluginId, tool := last.tool }, ?_, hid.symm, htool.symm⟩
        rw [hname]
        exact Function.update_self ..
      · have hearlier : entry ∈ entries := by
          rcases List.mem_append.1 hmem with hmem | hmem
          · exact hmem
          · rw [List.mem_singleton.1 hmem] at hname
            exact absurd rfl hname
        obtain ⟨found, hfound, hpair⟩ :=
          ih (fun other hother => hids other (List.mem_append_left _ hother)) hearlier
        exact ⟨found, (Function.update_of_ne hname ..).trans hfound, hpair⟩

/-! ## Order -/

/-- Two tools with different names of different plugins can be registered in any order. -/
theorem register_comm {first second : String} {firstTool secondTool : WireToolInfo Schema}
    (hfirst : owner (toolName first firstTool.name) = first)
    (hsecond : owner (toolName second secondTool.name) = second) (hne : first ≠ second) :
    registerPluginTool (registerPluginTool tools first firstTool) second secondTool =
      registerPluginTool (registerPluginTool tools second secondTool) first firstTool := by
  have hname : toolName first firstTool.name ≠ toolName second secondTool.name := by
    intro h
    rw [h, hsecond] at hfirst
    exact hne hfirst.symm
  simp only [registerPluginTool, ToolSets.mk.injEq, Function.update_of_ne hne,
    Function.update_of_ne hne.symm]
  refine ⟨Function.update_comm hname .., Finset.insert_comm .., Function.update_comm hne ..⟩

/-- A tool of another plugin can be registered before or after the old tools are removed. -/
theorem unregister_register (h : Owned owner tools) {pluginId other : String}
    {rawTool : WireToolInfo Schema} (hname : owner (toolName other rawTool.name) = other)
    (hne : other ≠ pluginId) :
    unregisterPluginTools (registerPluginTool tools other rawTool) pluginId =
      registerPluginTool (unregisterPluginTools tools pluginId) other rawTool := by
  have hold : toolName other rawTool.name ∉ tools.byPlugin pluginId := fun hmem =>
    hne (hname.symm.trans (h pluginId _ hmem))
  simp only [unregisterPluginTools, registerPluginTool, ToolSets.mk.injEq,
    Function.update_of_ne hne.symm, Function.update_of_ne hne]
  refine ⟨?_, Finset.insert_sdiff_of_notMem _ hold, Function.update_comm hne ..⟩
  funext name
  by_cases heq : name = toolName other rawTool.name
  · subst heq
    simp [hold]
  · simp [Function.update_of_ne heq]

/-- A tool of another plugin can be registered before or after a refresh. -/
theorem refresh_register (h : Owned owner tools) {pluginId other : String}
    {rawTools : List (WireToolInfo Schema)} {rawTool : WireToolInfo Schema}
    (hraw : OwnsAll owner pluginId rawTools) (hname : owner (toolName other rawTool.name) = other)
    (hne : other ≠ pluginId) :
    refreshPluginTools (registerPluginTool tools other rawTool) pluginId rawTools =
      registerPluginTool (refreshPluginTools tools pluginId rawTools) other rawTool := by
  induction rawTools using List.reverseRecOn with
  | nil => exact unregister_register h hname hne
  | append_singleton rawTools last ih =>
      have hconcat : ∀ tools : ToolSets Schema,
          refreshPluginTools tools pluginId (rawTools ++ [last]) =
            registerPluginTool (refreshPluginTools tools pluginId rawTools) pluginId last :=
        fun _ => List.foldl_concat ..
      rw [hconcat, hconcat, ih fun tool htool => hraw tool (List.mem_append_left _ htool)]
      exact register_comm hname (hraw last (by simp)) hne

/-- What the host listed of other plugins can be registered before or after a refresh. -/
theorem refresh_register_entries (h : Owned owner tools) {pluginId : String}
    {rawTools : List (WireToolInfo Schema)} {entries : List (Entry Schema)}
    (hraw : OwnsAll owner pluginId rawTools) (hentries : OwnsEntries owner entries)
    (hothers : ∀ entry ∈ entries, entry.pluginId ≠ pluginId) :
    refreshPluginTools (registerEntries tools entries) pluginId rawTools =
      registerEntries (refreshPluginTools tools pluginId rawTools) entries := by
  induction entries generalizing tools with
  | nil => rfl
  | cons entry rest ih =>
      have hentry := hentries entry (by simp)
      have hother := hothers entry (by simp)
      have hrest := ih (owned_register h hentry)
        (fun tool htool => hentries tool (List.mem_cons_of_mem _ htool))
        (fun tool htool => hothers tool (List.mem_cons_of_mem _ htool))
      refine hrest.trans ?_
      rw [refresh_register h hraw hentry hother]
      rfl

end CorvidNano.Server.Tools
