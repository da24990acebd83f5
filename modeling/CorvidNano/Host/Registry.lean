import CorvidNano.Host.Invoke
import CorvidNano.Library.Runs

/-!
# The registry of loaded plugins

The requests `plugin.load`, `plugin.reload` and `plugin.unload` of `main.rs` on the registry of
`registry.rs`, one after the other. A reload replaces the module of a slot and nothing else.

`slots_coherent` is the main result, for sequences in which every reload loads the same plugin
with the same limits, or the same module. `reload_mixes_plugins` is a reload that leaves an
unsigned module with the limits of the trusted tier.
-/

namespace CorvidNano.Host.Registry

open Loader Runs Sdk Signature

/-- `PluginSlot`, without its drain state. -/
structure Slot (engine : Engine) where
  manifest : PluginManifest
  limits : SandboxLimits
  module : engine.Module

/-- `PluginSlot::new`. -/
def Slot.new {engine : Engine} (loaded : LoadedPlugin engine) : Slot engine where
  manifest := loaded.manifest
  limits := loaded.limits
  module := loaded.module

/-- `PluginSlot::drain_and_reload`, once it has drained the slot. -/
def Slot.drainAndReload {engine : Engine} (slot : Slot engine) (newPlugin : LoadedPlugin engine) :
    Slot engine :=
  { slot with module := newPlugin.module }

/-- The slots by plugin id. -/
abbrev Slots (engine : Engine) := List (String × Slot engine)

/-- The errors of the requests. -/
inductive RequestError where
  | file (text : String)
  | load (error : LoadError)
  | alreadyRegistered (id : String)
  | notFound (id : String)

section Operations

variable {engine : Engine}

/-- `PluginRegistry::register`. -/
def register (slots : Slots engine) (loaded : LoadedPlugin engine) :
    Except RequestError (Slots engine) :=
  if (slots.lookup loaded.manifest.id).isSome then
    .error (.alreadyRegistered loaded.manifest.id)
  else .ok ((loaded.manifest.id, .new loaded) :: slots)

/-- `PluginRegistry::unload`. -/
def unload (slots : Slots engine) (id : String) : Except RequestError (Slots engine) :=
  if (slots.lookup id).isSome then .ok (slots.filter fun entry => entry.1 != id)
  else .error (.notFound id)

/-- `PluginRegistry::reload`. -/
def reload (slots : Slots engine) (id : String) (newPlugin : LoadedPlugin engine) :
    Except RequestError (Slots engine) :=
  if (slots.lookup id).isSome then
    .ok (slots.map fun entry =>
      if entry.1 = id then (entry.1, entry.2.drainAndReload newPlugin) else entry)
  else .error (.notFound id)

end Operations

/-- What the host reads for a load: the plugin file, its signature file and the trusted keys. -/
structure PluginFile where
  wasmBytes : List UInt8
  sigData : Option TextFile
  trustedKeys : TrustedKeys

/-- The tier that a request's `tier` parameter names. -/
def tierOf : Option String → TrustTier
  | some "trusted" | some "Trusted" => .trusted
  | some "verified" | some "Verified" => .verified
  | _ => .untrusted

/-- The arguments that a request makes of the files and its tier. -/
def PluginFile.input (file : PluginFile) (tier : Option String) : LoadInput where
  wasmBytes := file.wasmBytes
  sigData := file.sigData
  trustedKeys := file.trustedKeys
  tier := tierOf tier

/-- A request, with what the path that it names holds at that time, or the error for a path
that is refused or cannot be read. -/
inductive Request where
  | load (file : Except String PluginFile) (tier : Option String)
  | reload (id : String) (file : Except String PluginFile) (tier : Option String)
  | unload (id : String)

/-- The registry, and the calls of `load_plugin` that have succeeded. The code does not keep
these calls. -/
structure Server (platform : Platform) where
  slots : Slots platform.engine
  loads : List (LoadCall platform)

/-- The server before any request. -/
def Server.start (platform : Platform) : Server platform where
  slots := []
  loads := []

variable {platform : Platform}

/-- Load the plugin of a request, or say what is wrong with it. -/
def loadFile (platform : Platform) (file : Except String PluginFile) (tier : Option String) :
    Except RequestError (LoadCall platform) :=
  match file with
  | .error text => .error (.file text)
  | .ok file =>
      match hload : loadPlugin platform (file.input tier) with
      | .error error => .error (.load error)
      | .ok loaded => .ok { input := file.input tier, loaded, succeeded := hload }

/-- The part of `handle_load` and `handle_reload` after the file is read: load the plugin and
hand it to the registry, which keeps its slots if it refuses. -/
def loadThen (server : Server platform) (file : Except String PluginFile) (tier : Option String)
    (update : LoadedPlugin platform.engine → Except RequestError (Slots platform.engine)) :
    Server platform × Except RequestError Unit :=
  match loadFile platform file tier with
  | .error error => (server, .error error)
  | .ok call =>
      match update call.loaded with
      | .error error => ({ server with loads := call :: server.loads }, .error error)
      | .ok slots => ({ slots, loads := call :: server.loads }, .ok ())

/-- `handle_load`, `handle_reload` and `handle_unload`. -/
def handle (server : Server platform) : Request → Server platform × Except RequestError Unit
  | .load file tier => loadThen server file tier (register server.slots)
  | .reload id file tier => loadThen server file tier (reload server.slots id)
  | .unload id =>
      match unload server.slots id with
      | .error error => (server, .error error)
      | .ok slots => ({ server with slots }, .ok ())

/-- The server after a request. -/
def step (server : Server platform) (request : Request) : Option (Server platform) :=
  some (handle server request).1

/-- The slot's manifest, limits and module come from one call of `load_plugin`, whose manifest
has the slot's id. -/
def FromOneLoad (loads : List (LoadCall platform)) (id : String) (slot : Slot platform.engine) :
    Prop :=
  ∃ call ∈ loads, call.loaded.manifest = slot.manifest ∧ call.loaded.limits = slot.limits ∧
    call.loaded.module = slot.module ∧ call.loaded.manifest.id = id

/-- Every slot comes from one call of `load_plugin`. -/
def Coherent (server : Server platform) : Prop :=
  ∀ id slot, (id, slot) ∈ server.slots → FromOneLoad server.loads id slot

/-- Every module that runs with the limits of the trusted tier was loaded by a call that has
passed the signature check of that tier. -/
def TrustedVerified (server : Server platform) : Prop :=
  ∀ id slot, (id, slot) ∈ server.slots → slot.limits = .forTier .trusted →
    ∃ call ∈ server.loads, call.loaded.module = slot.module ∧
      verifySignature platform.ed25519 call.input.wasmBytes call.input.sigData
        call.input.trustedKeys .trusted = .ok ()

/-- A reload loads a plugin with the manifest and the limits of the slot that it reloads, or the
module that the slot runs already. -/
def ReloadsItself (server : Server platform) (request : Request) : Prop :=
  ∀ id file tier call slot, request = .reload id file tier →
    loadFile platform file tier = .ok call → (id, slot) ∈ server.slots →
    (call.loaded.manifest = slot.manifest ∧ call.loaded.limits = slot.limits) ∨
      call.loaded.module = slot.module

/-! ## Slots stay coherent -/

/-- Further loads do not matter to a slot that comes from an earlier one. -/
theorem FromOneLoad.cons {loads : List (LoadCall platform)} {id : String}
    {slot : Slot platform.engine} (h : FromOneLoad loads id slot) (call : LoadCall platform) :
    FromOneLoad (call :: loads) id slot := by
  obtain ⟨earlier, hmem, hparts⟩ := h
  exact ⟨earlier, List.mem_cons_of_mem _ hmem, hparts⟩

/-- A new slot comes from its own load. -/
theorem from_one_load_new (loads : List (LoadCall platform)) (call : LoadCall platform) :
    FromOneLoad (call :: loads) call.loaded.manifest.id (.new call.loaded) :=
  ⟨call, List.mem_cons_self, rfl, rfl, rfl, rfl⟩

/-- A slot that is reloaded with its own manifest and limits comes from the new load, and one
that is reloaded with its own module still comes from its old load. -/
theorem FromOneLoad.drain_and_reload {loads : List (LoadCall platform)} {id : String}
    {slot : Slot platform.engine} {call : LoadCall platform} (h : FromOneLoad loads id slot)
    (hsame : (call.loaded.manifest = slot.manifest ∧ call.loaded.limits = slot.limits) ∨
      call.loaded.module = slot.module) :
    FromOneLoad (call :: loads) id (slot.drainAndReload call.loaded) := by
  obtain ⟨earlier, hmem, hmanifest, hlimits, hmodule, hid⟩ := h
  rcases hsame with ⟨hsameManifest, hsameLimits⟩ | hsameModule
  · refine ⟨call, List.mem_cons_self, hsameManifest, hsameLimits, rfl, ?_⟩
    rw [hsameManifest, ← hmanifest, hid]
  · exact ⟨earlier, List.mem_cons_of_mem _ hmem, hmanifest, hlimits,
      hmodule.trans hsameModule.symm, hid⟩

/-- A registration adds the new slot. -/
theorem register_eq_ok {slots next : Slots platform.engine} {loaded : LoadedPlugin platform.engine}
    (h : register slots loaded = .ok next) : next = (loaded.manifest.id, .new loaded) :: slots := by
  unfold register at h
  split at h
  · cases h
  · cases h
    rfl

/-- After a reload a slot is an old one, or the old one of the id with the new module. -/
theorem mem_of_reload {slots next : Slots platform.engine} {id : String}
    {newPlugin : LoadedPlugin platform.engine} (h : reload slots id newPlugin = .ok next)
    {entry : String × Slot platform.engine} (hmem : entry ∈ next) :
    entry ∈ slots ∨ ∃ slot, (id, slot) ∈ slots ∧ entry = (id, slot.drainAndReload newPlugin) := by
  unfold reload at h
  split at h
  · cases h
    obtain ⟨⟨oldId, slot⟩, hold, heq⟩ := List.mem_map.mp hmem
    dsimp only at heq
    split at heq
    · rename_i hid
      subst hid
      exact .inr ⟨slot, hold, heq.symm⟩
    · rw [← heq]
      exact .inl hold
  · cases h

/-- After an unload the slots are among the old ones. -/
theorem mem_of_unload {slots next : Slots platform.engine} {id : String}
    (h : unload slots id = .ok next) {entry : String × Slot platform.engine}
    (hmem : entry ∈ next) : entry ∈ slots := by
  unfold unload at h
  split at h
  · cases h
    exact (List.mem_filter.mp hmem).1
  · cases h

/-- A successful load is logged, and the registry then has the old slots or the updated ones. -/
theorem load_then_eq (server : Server platform) (file : Except String PluginFile)
    (tier : Option String)
    (update : LoadedPlugin platform.engine → Except RequestError (Slots platform.engine)) :
    (loadThen server file tier update).1 = server ∨
      ∃ call, loadFile platform file tier = .ok call ∧
        (loadThen server file tier update).1.loads = call :: server.loads ∧
        ((loadThen server file tier update).1.slots = server.slots ∨
          update call.loaded = .ok (loadThen server file tier update).1.slots) := by
  unfold loadThen
  cases hload : loadFile platform file tier with
  | error error => exact .inl rfl
  | ok call =>
      refine .inr ⟨call, rfl, ?_⟩
      dsimp only
      cases hupdate : update call.loaded with
      | error error => exact ⟨rfl, .inl rfl⟩
      | ok slots => exact ⟨rfl, .inr rfl⟩

/-- A load keeps every slot coherent, if the slots that the registry makes of it are. -/
theorem Coherent.load_then {server : Server platform} (h : Coherent server)
    (file : Except String PluginFile) (tier : Option String)
    {update : LoadedPlugin platform.engine → Except RequestError (Slots platform.engine)}
    (hupdate : ∀ call slots, loadFile platform file tier = .ok call →
      update call.loaded = .ok slots → ∀ id slot, (id, slot) ∈ slots →
      FromOneLoad (call :: server.loads) id slot) :
    Coherent (loadThen server file tier update).1 := by
  rcases load_then_eq server file tier update with hsame | ⟨call, hload, hloads, hslots⟩
  · rwa [hsame]
  · intro id slot hmem
    rw [hloads]
    rcases hslots with hslots | hslots
    · rw [hslots] at hmem
      exact (h id slot hmem).cons call
    · exact hupdate call _ hload hslots id slot hmem

/-- Every request that meets the condition keeps the slots coherent. -/
theorem Coherent.step {server next : Server platform} {request : Request}
    (h : Coherent server) (hreload : ReloadsItself server request)
    (hstep : step server request = some next) : Coherent next := by
  obtain rfl := Option.some.inj hstep
  cases request with
  | load file tier =>
      refine h.load_then file tier fun call slots hload hregister id slot hmem => ?_
      rw [register_eq_ok hregister] at hmem
      rcases List.mem_cons.mp hmem with heq | hmem
      · cases heq
        exact from_one_load_new server.loads call
      · exact (h id slot hmem).cons call
  | reload id file tier =>
      refine h.load_then file tier fun call slots hload hreloaded other slot hmem => ?_
      rcases mem_of_reload hreloaded hmem with hold | ⟨oldSlot, hold, heq⟩
      · exact (h _ _ hold).cons call
      · -- The reloaded slot: the condition says that its parts still belong together.
        cases heq
        exact (h _ _ hold).drain_and_reload (hreload _ _ _ call oldSlot rfl hload hold)
  | unload id =>
      unfold handle
      dsimp only
      cases hunload : unload server.slots id with
      | error error => exact h
      | ok slots => exact fun other slot hmem => h other slot (mem_of_unload hunload hmem)

/-- A module that comes from one load with the limits of the trusted tier has passed the
signature check in that load. -/
theorem Coherent.trusted_verified {server : Server platform} (h : Coherent server) :
    TrustedVerified server := by
  intro id slot hmem htrusted
  obtain ⟨call, hcall, _, hlimits, hmodule, _⟩ := h id slot hmem
  exact ⟨call, hcall, hmodule, call.verified_of_trusted (hlimits.trans htrusted)⟩

/-! ## Listed manifests -/

/-- `PluginRegistry::list_manifests`, in no particular order. -/
def listManifests {engine : Engine} (slots : Slots engine) : List PluginManifest :=
  slots.map fun entry => entry.2.manifest

/-- Every slot has a manifest that the host has accepted. -/
def Accepted (server : Server platform) : Prop :=
  ∀ entry ∈ server.slots, validateManifest platform.semver entry.2.manifest = .ok ()

/-- A load leaves accepted manifests, if the slots that the registry makes of it have them. -/
theorem Accepted.load_then {server : Server platform} (h : Accepted server)
    (file : Except String PluginFile) (tier : Option String)
    {update : LoadedPlugin platform.engine → Except RequestError (Slots platform.engine)}
    (hupdate : ∀ (call : LoadCall platform) slots, update call.loaded = .ok slots →
      ∀ entry ∈ slots, entry.2.manifest = call.loaded.manifest ∨
        ∃ old ∈ server.slots, entry.2.manifest = old.2.manifest) :
    Accepted (loadThen server file tier update).1 := by
  rcases load_then_eq server file tier update with hsame | ⟨call, -, -, hslots | hslots⟩
  · rwa [hsame]
  · intro entry hmem
    rw [hslots] at hmem
    exact h entry hmem
  · intro entry hmem
    rcases hupdate call _ hslots entry hmem with hmanifest | ⟨old, hold, hmanifest⟩
    · obtain ⟨-, -, -, -, hextract, -, -⟩ := load_plugin_eq_ok.mp call.succeeded
      rw [hmanifest]
      exact validate_manifest_of_extract hextract
    · rw [hmanifest]
      exact h old hold

/-- A request leaves accepted manifests. A reload keeps the one of its slot. -/
theorem Accepted.step {server next : Server platform} {request : Request} (h : Accepted server)
    (hstep : step server request = some next) : Accepted next := by
  obtain rfl := Option.some.inj hstep
  cases request with
  | load file tier =>
      refine h.load_then file tier fun call slots hregister entry hmem => ?_
      rw [register_eq_ok hregister] at hmem
      rcases List.mem_cons.mp hmem with rfl | hmem
      · exact .inl rfl
      · exact .inr ⟨entry, hmem, rfl⟩
  | reload id file tier =>
      refine h.load_then file tier fun call slots hreloaded entry hmem => .inr ?_
      rcases mem_of_reload hreloaded hmem with hold | ⟨slot, hold, rfl⟩
      · exact ⟨entry, hold, rfl⟩
      · exact ⟨(id, slot), hold, rfl⟩
  | unload id =>
      unfold handle
      dsimp only
      cases hunload : unload server.slots id with
      | error error => exact h
      | ok slots => exact fun entry hmem => h entry (mem_of_unload hunload hmem)

/-- After any requests, the host lists only manifests that it has accepted. -/
theorem validated_of_listed {requests : List Request} {server : Server platform}
    (hrun : run step (Server.start platform) requests = some server) :
    ∀ manifest ∈ listManifests server.slots,
      validateManifest platform.semver manifest = .ok () := by
  intro manifest hmem
  obtain ⟨entry, hentry, rfl⟩ := List.mem_map.mp hmem
  have haccepted : Accepted server :=
    run_invariant (fun h hstep => h.step hstep) (fun entry hmem => by cases hmem) hrun
  exact haccepted entry hentry

/-- The sample plugin that asks for nothing, with the signature of its binary by a trusted key. -/
def plainFile : PluginFile where
  wasmBytes := [2]
  sigData := some ((List.replicate 32 ['0', '1']).flatten ++ '\n' ::
    (List.replicate 64 ['0', '1']).flatten)
  trustedKeys := .entries
    [some { name := "corvid.pub".toList, text := some (List.replicate 32 ['0', '1']).flatten }]

/-- Its load at the trusted tier. -/
def plainLoad : LoadCall Invoke.samplePlatform where
  input := plainFile.input (some "trusted")
  loaded := {
    manifest := Invoke.sampleManifest []
    tier := .trusted
    module := .plain
    limits := .forTier .trusted }
  succeeded := rfl

/-- The server after the plugin is loaded. -/
def plainServer : Server Invoke.samplePlatform where
  slots := [("sample", .new plainLoad.loaded)]
  loads := [plainLoad]

/-- The server after the plugin is loaded and reloaded. -/
def plainServerReloaded : Server Invoke.samplePlatform :=
  { plainServer with loads := [plainLoad, plainLoad] }

/-- The server after the module of the plugin is replaced by one without a signature. -/
def mixedServer : Server Invoke.samplePlatform where
  slots := [("sample", { Slot.new plainLoad.loaded with module := .network })]
  loads := [Invoke.networkLoad, plainLoad]

open Classical in
/-- In sequences of requests in which every reload loads the plugin that its slot holds, every
slot comes from one call of `load_plugin`, and every module with trusted limits has passed the
signature check. -/
theorem slots_coherent {requests : List Request} {server : Server platform}
    (hrun : run (restrict step ReloadsItself) (Server.start platform) requests = some server) :
    Coherent server ∧ TrustedVerified server := by
  have hcoherent : Coherent server :=
    run_restrict_invariant (fun h hreload hstep => h.step hreload hstep)
      (fun id slot hmem => by simp [Server.start] at hmem) hrun
  exact ⟨hcoherent, hcoherent.trusted_verified⟩

open Classical in
/-- `slots_coherent` for a signed plugin that is loaded and reloaded from its file. -/
theorem slots_coherent_reloaded :
    Coherent plainServerReloaded ∧ TrustedVerified plainServerReloaded := by
  have hload : ReloadsItself (Server.start Invoke.samplePlatform)
      (.load (.ok plainFile) (some "trusted")) := by
    intro id file tier call slot hrequest
    cases hrequest
  have hreload : ReloadsItself plainServer
      (.reload "sample" (.ok plainFile) (some "trusted")) := by
    intro id file tier call slot hrequest hloaded hmem
    cases hrequest
    obtain rfl : plainLoad = call := Except.ok.inj hloaded
    cases List.mem_singleton.mp hmem
    exact .inl ⟨rfl, rfl⟩
  have hrun : run (restrict step ReloadsItself) (Server.start Invoke.samplePlatform)
      [.load (.ok plainFile) (some "trusted"),
        .reload "sample" (.ok plainFile) (some "trusted")] = some plainServerReloaded := by
    refine run_cons_eq_some.mpr ⟨plainServer, restrict_eq_some.mpr ⟨hload, rfl⟩, ?_⟩
    exact run_cons_eq_some.mpr ⟨plainServerReloaded, restrict_eq_some.mpr ⟨hreload, rfl⟩, rfl⟩
  exact slots_coherent hrun

/-- A reload from an unsigned file leaves its module with the manifest and the trusted limits of
the signed plugin. -/
theorem reload_mixes_plugins :
    run step (Server.start Invoke.samplePlatform)
        [.load (.ok plainFile) (some "trusted"),
          .reload "sample" (.ok ⟨[1], none, .notFound⟩) none] = some mixedServer ∧
      ¬ Coherent mixedServer ∧ ¬ TrustedVerified mixedServer := by
  refine ⟨rfl, fun hcoherent => ?_, fun hverified => ?_⟩
  · obtain ⟨call, hmem, _, hlimits, hmodule, _⟩ := hcoherent _ _ List.mem_cons_self
    rcases List.mem_pair.mp hmem with rfl | rfl
    · exact absurd hlimits (by decide)
    · cases (hmodule : Invoke.SampleModule.plain = .network)
  · obtain ⟨call, hmem, hmodule, hsigned⟩ := hverified _ _ List.mem_cons_self rfl
    rcases List.mem_pair.mp hmem with rfl | rfl
    · exact absurd hsigned (by decide)
    · cases (hmodule : Invoke.SampleModule.plain = .network)

end CorvidNano.Host.Registry
