import CorvidNano.Host.Loader

/-!
# Instances of a loaded plugin

`create_execution_store` in `invoke.rs`, which every tool invocation and every event dispatch
calls for a new instance of the plugin.

Three results compare it with the rest of the host. `tier_bounds_capabilities_iff`: the limits
of a plugin's tier bound the functions linked for its instances only when its own manifest asks
for nothing more. `linker_builds_iff`: the linker of a loaded plugin can be built only when its
manifest lists no kind of capability twice. `loadable_iff`: a module that can be instantiated for
execution can be loaded only when it imports nothing.
-/

namespace CorvidNano.Host.Invoke

open Linking Loader Sdk Signature

/-- The state that an instance's store carries, without the service backends. -/
structure PluginState where
  pluginId : String
  memoryBytes : Nat
  fuel : Nat
  httpAllowlist : List String
  messageTargetFilter : Option String

/-- An instance for one call: its store's state, and the linker it was made with. -/
structure Instance (engine : Engine) where
  state : PluginState
  linker : Linker
  module : engine.Module

/-- The errors of `create_execution_store`. -/
inductive StoreError where
  | definedTwice (function : Import)
  | instantiate
  deriving DecidableEq

/-- The allowlist of the first network capability. -/
def httpAllowlist (capabilities : List Capability) : List String :=
  (capabilities.findSome? fun
    | .network allowlist => some allowlist
    | _ => none).getD []

/-- The filter of the first messaging capability. -/
def messageTargetFilter (capabilities : List Capability) : Option String :=
  capabilities.findSome? fun
    | .agentMessage targetFilter => some targetFilter
    | _ => none

/-- `create_execution_store`. -/
def createExecutionStore (engine : Engine) (module : engine.Module) (pluginId : String)
    (capabilities : List Capability) (limits : SandboxLimits) :
    Except StoreError (Instance engine) :=
  match linkHostFunctions [] capabilities limits with
  | .error function => .error (.definedTwice function)
  | .ok linker =>
      if engine.instantiate linker module limits then
        .ok {
          state := {
            pluginId
            memoryBytes := limits.memoryBytes
            fuel := limits.fuelPerCall
            httpAllowlist := httpAllowlist capabilities
            messageTargetFilter := messageTargetFilter capabilities }
          linker
          module }
      else .error .instantiate

/-- An instance exists if and only if linking and instantiating succeed, and it has the linker
of its capabilities. -/
theorem create_execution_store_eq_ok {engine : Engine} {module : engine.Module}
    {pluginId : String} {capabilities : List Capability} {limits : SandboxLimits}
    {linker : Linker} :
    (∃ inst, createExecutionStore engine module pluginId capabilities limits = .ok inst ∧
        inst.linker = linker) ↔
      linkHostFunctions [] capabilities limits = .ok linker ∧
        engine.instantiate linker module limits = true := by
  unfold createExecutionStore
  cases linkHostFunctions [] capabilities limits with
  | error function => simp
  | ok linked =>
      by_cases hinstantiated : engine.instantiate linked module limits = true
      · simp only [hinstantiated, if_true, Except.ok.injEq, exists_eq_left']
        constructor
        · rintro rfl
          exact ⟨rfl, hinstantiated⟩
        · exact fun h => h.1
      · simp only [hinstantiated, Except.ok.injEq]
        constructor
        · rintro ⟨_, h, _⟩
          cases h
        · rintro ⟨rfl, h⟩
          exact absurd h hinstantiated

/-! ## A small platform -/

/-- The manifest of the sample plugin with the given capabilities. -/
def sampleManifest (capabilities : List Capability) : PluginManifest where
  id := "sample"
  version := "0.1.0"
  author := "corvid"
  description := "test"
  capabilities := capabilities
  eventFilter := []
  trustTier := .untrusted
  minHostVersion := "0.1.0"
  tools := []
  dependencies := []

/-- The modules of the sample plugin: one asks for the network, one for nothing, and one asks
for storage and imports a storage function. -/
inductive SampleModule where
  | network
  | plain
  | storage
  deriving DecidableEq

/-- The byte that stands for a sample module, as its binary and as its encoded manifest. -/
def SampleModule.byte : SampleModule → UInt8
  | .network => 1
  | .plain => 2
  | .storage => 3

/-- A platform on which the three sample modules run, and on which one key has signed the plain
one. -/
def samplePlatform : Platform where
  engine := {
    Module := SampleModule
    compile := fun wasmBytes =>
      [([1], .network), ([2], .plain), ([3], .storage)].lookup wasmBytes
    imports := fun module => if module = .storage then [⟨"env", "host_kv_get"⟩] else []
    starts := fun _ _ => true
    abiVersion := fun _ _ => .returned 1
    manifest := fun _ _ => .returned 4
    memory := fun module _ => some ([0, 0, 0, 0] ++ LinearMemory.prefixed [module.byte]) }
  ed25519 := {
    validKey := fun key => key == List.replicate 32 1
    verify := fun key message signature =>
      key == List.replicate 32 1 && message == [2] && signature == List.replicate 64 1 }
  semver := {
    Version := Nat
    parse := fun text => [("0.1.0", 1), ("0.3.0", 3)].lookup text
    new := fun _ minor _ => minor
    lt := fun first second => decide (first < second) }
  decodeManifest := fun bytes =>
    match bytes with
    | [1] => .ok (sampleManifest [.network ["example.com"]])
    | [2] => .ok (sampleManifest [])
    | [3] => .ok (sampleManifest [.storage "sample"])
    | _ => .error "unknown manifest"

/-! ## The tier and the capabilities -/

/-- Every instance of a loaded plugin has only functions that the limits of its tier allow. -/
def TierBoundsCapabilities {platform : Platform} (call : LoadCall platform) : Prop :=
  ∀ inst, createExecutionStore platform.engine call.loaded.module call.loaded.manifest.id
      call.loaded.manifest.capabilities call.loaded.limits = .ok inst →
    RespectsLimits (.forTier call.loaded.tier) inst.linker

/-- A loaded module has no imports, so it is instantiated with any linker. -/
theorem instantiate_of_loaded {platform : Platform} (call : LoadCall platform)
    (linker : Linker) :
    platform.engine.instantiate linker call.loaded.module call.loaded.limits = true := by
  obtain ⟨_, _, hinstantiated, _⟩ := load_plugin_eq_ok.mp call.succeeded
  obtain ⟨himports, hstarts⟩ := (instantiate_empty_iff _ _ _).mp hinstantiated
  unfold Engine.instantiate
  rw [himports, hstarts]
  rfl

/-- The tier of a plugin bounds the functions of its instances if and only if its manifest lists
some kind of capability twice, so that it has no instance, or lists only capabilities that the
tier grants. -/
theorem tier_bounds_capabilities_iff {platform : Platform} (call : LoadCall platform) :
    TierBoundsCapabilities call ↔
      ¬ (call.loaded.manifest.capabilities.map kindOf).Nodup ∨
        ∀ capability ∈ call.loaded.manifest.capabilities,
          (SandboxLimits.forTier call.loaded.tier).grants capability = true := by
  by_cases hkinds : (call.loaded.manifest.capabilities.map kindOf).Nodup
  · have hlinkable : ∃ linker, linkHostFunctions [] call.loaded.manifest.capabilities
        call.loaded.limits = .ok linker :=
      linkable_iff.mpr hkinds
    obtain ⟨linker, hlinker⟩ := hlinkable
    have hfunctions := (link_host_functions_eq_ok.mp hlinker).2
    rw [or_iff_right (not_not.mpr hkinds), ← respects_limits_iff, ← hfunctions]
    constructor
    · intro hbounds
      obtain ⟨inst, hinst, hlinked⟩ := create_execution_store_eq_ok.mpr
        ⟨hlinker, instantiate_of_loaded call linker⟩
      rw [← hlinked]
      exact hbounds inst hinst
    · intro hrespects inst hinst
      have hlinked := (create_execution_store_eq_ok.mp ⟨inst, hinst, rfl⟩).1
      rw [hlinker, Except.ok.injEq] at hlinked
      rwa [← hlinked]
  · refine iff_of_true (fun inst hinst => ?_) (.inl hkinds)
    have hlinked := (create_execution_store_eq_ok.mp ⟨inst, hinst, rfl⟩).1
    exact absurd (linkable_iff.mp ⟨_, hlinked⟩) hkinds

/-- A load of the module that asks for the network, at the untrusted tier. -/
def networkLoad : LoadCall samplePlatform where
  input := { wasmBytes := [1], sigData := none, trustedKeys := .notFound, tier := .untrusted }
  loaded := {
    manifest := sampleManifest [.network ["example.com"]]
    tier := .untrusted
    module := .network
    limits := .forTier .untrusted }
  succeeded := rfl

/-- An untrusted plugin gets the HTTP functions that its manifest asks for. -/
theorem untrusted_network_linked : ¬ TierBoundsCapabilities networkLoad := by
  intro hbounds
  have hrespects := hbounds _ rfl
  exact absurd (hrespects.http ⟨⟨"env", "host_http_get"⟩, by decide, by decide⟩) (by decide)

/-! ## The linker of a loaded plugin -/

/-- The linker of a loaded plugin can be built: no function is defined twice. -/
def LinkerBuilds {platform : Platform} (call : LoadCall platform) : Prop :=
  ∀ function, createExecutionStore platform.engine call.loaded.module call.loaded.manifest.id
    call.loaded.manifest.capabilities call.loaded.limits ≠ .error (.definedTwice function)

/-- A loaded plugin whose linker can be built has an instance. -/
theorem LinkerBuilds.exists_instance {platform : Platform} {call : LoadCall platform}
    (h : LinkerBuilds call) :
    ∃ inst, createExecutionStore platform.engine call.loaded.module call.loaded.manifest.id
      call.loaded.manifest.capabilities call.loaded.limits = .ok inst := by
  unfold LinkerBuilds createExecutionStore at h
  unfold createExecutionStore
  cases hlinker : linkHostFunctions [] call.loaded.manifest.capabilities call.loaded.limits with
  | error function =>
      rw [hlinker] at h
      exact absurd rfl (h function)
  | ok linker =>
      dsimp only
      rw [if_pos (instantiate_of_loaded call linker)]
      exact ⟨_, rfl⟩

/-- The linker of a loaded plugin can be built if and only if its manifest lists no kind of
capability twice. `validate_manifest` does not look at the capabilities. -/
theorem linker_builds_iff {platform : Platform} (call : LoadCall platform) :
    LinkerBuilds call ↔ (call.loaded.manifest.capabilities.map kindOf).Nodup := by
  constructor
  · intro hbuilds
    obtain ⟨inst, hinst⟩ := hbuilds.exists_instance
    have hlinker := (create_execution_store_eq_ok.mp ⟨inst, hinst, rfl⟩).1
    exact linkable_iff.mp ⟨_, hlinker⟩
  · intro hkinds function hfailed
    obtain ⟨linker, hlinker⟩ := linkable_iff.mpr hkinds
    obtain ⟨inst, hinst, _⟩ := create_execution_store_eq_ok.mpr
      ⟨hlinker, instantiate_of_loaded call linker⟩
    rw [hinst] at hfailed
    cases hfailed

/-- The sample platform with a manifest that asks for two storage namespaces. -/
def twoNamespacesPlatform : Platform :=
  { samplePlatform with
    decodeManifest := fun _ => .ok (sampleManifest [.storage "notes", .storage "settings"]) }

/-- A load of the plugin with two storage namespaces. -/
def twoNamespacesLoad : LoadCall twoNamespacesPlatform where
  input := { wasmBytes := [2], sigData := none, trustedKeys := .notFound, tier := .untrusted }
  loaded := {
    manifest := sampleManifest [.storage "notes", .storage "settings"]
    tier := .untrusted
    module := .plain
    limits := .forTier .untrusted }
  succeeded := rfl

/-- Its storage functions are defined for the first namespace and then again for the second. -/
theorem two_namespaces_defined_twice : ¬ LinkerBuilds twoNamespacesLoad := by
  intro hbuilds
  exact hbuilds ⟨"env", "host_kv_get"⟩ rfl

/-! ## Loading what can be executed -/

/-- A plugin file that could run: its module compiles and passes the signature gate, exports a
compatible ABI version and a valid manifest, and can be instantiated for execution with the host
functions of its capabilities. -/
structure Runnable (platform : Platform) where
  input : LoadInput
  module : platform.engine.Module
  manifest : PluginManifest
  inst : Instance platform.engine
  compiled : platform.engine.compile input.wasmBytes = some module
  signed : verifySignature platform.ed25519 input.wasmBytes input.sigData input.trustedKeys
    input.tier = .ok ()
  compatible : ∃ version,
    checkAbiVersion platform.engine module (.forTier input.tier) = .ok version
  extracted : extractManifest platform module (.forTier input.tier) = .ok manifest
  executes : createExecutionStore platform.engine module manifest.id manifest.capabilities
    (.forTier input.tier) = .ok inst

/-- The module of a plugin that can be executed starts. -/
theorem Runnable.starts {platform : Platform} (runnable : Runnable platform) :
    platform.engine.starts runnable.module (.forTier runnable.input.tier) = true := by
  have hinstantiated :=
    (create_execution_store_eq_ok.mp ⟨_, runnable.executes, rfl⟩).2
  unfold Engine.instantiate at hinstantiated
  exact (Bool.and_eq_true_iff.mp hinstantiated).2

/-- A plugin that could run is instantiated and loaded by `load_plugin` if and only if its
module imports nothing. -/
theorem loadable_iff {platform : Platform} (runnable : Runnable platform) :
    (platform.engine.instantiate [] runnable.module (.forTier runnable.input.tier) = true ∧
        ∃ loaded, loadPlugin platform runnable.input = .ok loaded) ↔
      platform.engine.imports runnable.module = [] := by
  constructor
  · rintro ⟨hinstantiated, _⟩
    exact ((instantiate_empty_iff _ _ _).mp hinstantiated).1
  · intro himports
    have hinstantiated := (instantiate_empty_iff _ _ _).mpr ⟨himports, runnable.starts⟩
    refine ⟨hinstantiated, { manifest := runnable.manifest
                             tier := runnable.input.tier
                             module := runnable.module
                             limits := .forTier runnable.input.tier }, ?_⟩
    exact load_plugin_eq_ok.mpr ⟨runnable.compiled, runnable.signed, hinstantiated,
      runnable.compatible, runnable.extracted, rfl, rfl⟩

/-- The sample plugin that stores data, as a file that could run. -/
def storageRunnable : Runnable samplePlatform where
  input := { wasmBytes := [3], sigData := none, trustedKeys := .notFound, tier := .verified }
  module := .storage
  manifest := sampleManifest [.storage "sample"]
  inst := {
    state := {
      pluginId := "sample"
      memoryBytes := 32 * 1024 * 1024
      fuel := 100000000
      httpAllowlist := []
      messageTargetFilter := none }
    linker := storageFunctions
    module := .storage }
  compiled := rfl
  signed := rfl
  compatible := ⟨1, rfl⟩
  extracted := rfl
  executes := rfl

/-- A plugin that imports a function of a capability it declares can be executed but not
loaded. -/
theorem storage_plugin_not_loadable :
    samplePlatform.engine.imports storageRunnable.module = [⟨"env", "host_kv_get"⟩] ∧
      samplePlatform.engine.instantiate [] storageRunnable.module (.forTier .verified) = false ∧
      loadPlugin samplePlatform storageRunnable.input = .error .instantiate :=
  ⟨rfl, rfl, rfl⟩

end CorvidNano.Host.Invoke
