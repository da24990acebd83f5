import CorvidNano.Host.LinearMemory
import CorvidNano.Host.Linking
import CorvidNano.Host.Signature

/-!
# Loading a plugin

`load_plugin` in `loader.rs`: compile the module, check its signature, instantiate it with an
empty linker, check its ABI version, and read and validate its manifest. What Wasmtime makes of
a module is a parameter.

`load_plugin_eq_ok` says what a successful load has established.
-/

namespace CorvidNano.Host.Loader

open Linking Sdk Signature

/-- The call of an export without arguments that returns an `i32`. -/
inductive ExportCall where
  | missing
  | trapped (error : String)
  | returned (value : BitVec 32)

/-- What Wasmtime makes of modules: how it compiles them, which imports they have, whether they
start within the limits, and what the exports that a load uses do under the limits. The memory
is the exported one after the manifest call. -/
structure Engine where
  Module : Type
  compile : List UInt8 → Option Module
  imports : Module → List Import
  starts : Module → SandboxLimits → Bool
  abiVersion : Module → SandboxLimits → ExportCall
  manifest : Module → SandboxLimits → ExportCall
  memory : Module → SandboxLimits → Option (List UInt8)

/-- Semantic versions: their parser, a version of three numbers, and their order. -/
structure Semver where
  Version : Type
  parse : String → Option Version
  new : Nat → Nat → Nat → Version
  lt : Version → Version → Bool

/-- What the host builds on. -/
structure Platform where
  engine : Engine
  ed25519 : Ed25519
  semver : Semver
  decodeManifest : List UInt8 → Except String PluginManifest

/-- `Linker::instantiate`: every import must be defined, and the module must start. -/
def Engine.instantiate (engine : Engine) (linker : Linker) (module : engine.Module)
    (limits : SandboxLimits) : Bool :=
  (engine.imports module).all (linker.contains ·) && engine.starts module limits

/-- The errors of a load. -/
inductive LoadError where
  | compile
  | signatureInvalid (error : SignatureError)
  | instantiate
  | wasm (text : String)
  | abiMismatch (version min max : Nat)
  | manifestInvalid (text : String)
  | hostTooOld (host required : String)
  | panicked

/-- The text of an error, without what the libraries and the file system add to it. A panic has
none. -/
def LoadError.display : LoadError → Option String
  | .compile => some "failed to compile WASM module"
  | .signatureInvalid error => some ("signature verification failed: " ++ error.reason)
  | .instantiate => some "failed to instantiate WASM for manifest extraction"
  | .wasm text => some ("WASM error: " ++ text)
  | .abiMismatch version min max =>
      some ("ABI version " ++ toString version ++ " incompatible with host [" ++ toString min ++
        ", " ++ toString max ++ "]")
  | .manifestInvalid text => some ("invalid manifest: " ++ text)
  | .hostTooOld host required => some ("host version " ++ host ++ " < required " ++ required)
  | .panicked => none

/-- `ABI_VERSION`. -/
def abiVersion : Nat := 1

/-- `ABI_MIN_COMPATIBLE`. -/
def abiMinCompatible : Nat := 1

/-- `HOST_VERSION`. -/
def hostVersion : String := "0.3.0"

/-- The regular expression of plugin ids, `^[a-z][a-z0-9-]{0,49}$`. -/
def idRe (text : String) : Bool :=
  Text.matchesName Char.isLower (fun c => c.isLower || c.isDigit || c == '-') 49 text

/-- The text of that regular expression in error messages. -/
def idReText : String := "^[a-z][a-z0-9-]\x7b0,49\x7d$"

/-- The check of `validate_manifest` on the dependencies. -/
def validateDependencies (id : String) : List String → Except LoadError Unit
  | [] => .ok ()
  | dependency :: rest =>
      if idRe dependency = false then
        .error (.manifestInvalid
          ("dependency ID '" ++ dependency ++ "' does not match " ++ idReText))
      else if dependency = id then
        .error (.manifestInvalid ("plugin '" ++ id ++ "' cannot depend on itself"))
      else validateDependencies id rest

/-- `validate_manifest`. -/
def validateManifest (semver : Semver) (manifest : PluginManifest) : Except LoadError Unit :=
  if idRe manifest.id = false then
    .error (.manifestInvalid ("ID '" ++ manifest.id ++ "' does not match " ++ idReText))
  else if (semver.parse manifest.version).isNone then
    .error (.manifestInvalid ("version '" ++ manifest.version ++ "' is not valid semver"))
  else
    match semver.parse manifest.minHostVersion with
    | none =>
        .error (.manifestInvalid
          ("min_host_version '" ++ manifest.minHostVersion ++ "' is not valid semver"))
    | some minHost =>
        let host := (semver.parse hostVersion).getD (semver.new 0 1 0)
        if semver.lt host minHost then
          .error (.hostTooOld hostVersion manifest.minHostVersion)
        else do
          validateDependencies manifest.id manifest.dependencies
          if manifest.author = "" then .error (.manifestInvalid "author is empty")
          else if manifest.description = "" then .error (.manifestInvalid "description is empty")
          else .ok ()

/-- `check_abi_version`. -/
def checkAbiVersion (engine : Engine) (module : engine.Module) (limits : SandboxLimits) :
    Except LoadError Nat :=
  match engine.abiVersion module limits with
  | .missing => .error (.wasm "missing export: __corvid_abi_version")
  | .trapped error => .error (.wasm ("__corvid_abi_version call failed: " ++ error))
  | .returned value =>
      if value.toNat < abiMinCompatible ∨ abiVersion < value.toNat then
        .error (.abiMismatch value.toNat abiMinCompatible abiVersion)
      else .ok value.toNat

/-- `extract_manifest`. -/
def extractManifest (platform : Platform) (module : platform.engine.Module)
    (limits : SandboxLimits) : Except LoadError PluginManifest :=
  match platform.engine.manifest module limits with
  | .missing => .error (.wasm "missing export: __corvid_manifest")
  | .trapped error => .error (.wasm ("__corvid_manifest call failed: " ++ error))
  | .returned ptr =>
      match platform.engine.memory module limits with
      | none => .error (.wasm "no memory export")
      | some memory =>
          match LinearMemory.readPrefixed memory ptr with
          | .error .pointerOutOfBounds => .error (.wasm "manifest pointer out of bounds")
          | .error (.dataOutOfBounds _) => .error (.wasm "manifest data out of bounds")
          | .error .panicked => .error .panicked
          | .ok bytes =>
              match platform.decodeManifest bytes with
              | .error error =>
                  .error (.manifestInvalid ("failed to deserialize manifest: " ++ error))
              | .ok manifest => do
                  validateManifest platform.semver manifest
                  .ok manifest

/-- A loaded plugin. -/
structure LoadedPlugin (engine : Engine) where
  manifest : PluginManifest
  tier : TrustTier
  module : engine.Module
  limits : SandboxLimits

/-- The arguments of `load_plugin`. -/
structure LoadInput where
  wasmBytes : List UInt8
  sigData : Option TextFile
  trustedKeys : TrustedKeys
  tier : TrustTier

/-- `load_plugin`. -/
def loadPlugin (platform : Platform) (input : LoadInput) :
    Except LoadError (LoadedPlugin platform.engine) :=
  let limits := SandboxLimits.forTier input.tier
  match platform.engine.compile input.wasmBytes with
  | none => .error .compile
  | some module =>
      match verifySignature platform.ed25519 input.wasmBytes input.sigData input.trustedKeys
          input.tier with
      | .error error => .error (.signatureInvalid error)
      | .ok () =>
          -- The linker is empty: the manifest, and with it the capabilities, is not known yet.
          if platform.engine.instantiate [] module limits = false then .error .instantiate
          else do
            let _ ← checkAbiVersion platform.engine module limits
            let manifest ← extractManifest platform module limits
            .ok { manifest, tier := input.tier, module, limits }

/-! ## What a successful load has established -/

/-- With an empty linker only a module without imports is instantiated. -/
theorem instantiate_empty_iff (engine : Engine) (module : engine.Module)
    (limits : SandboxLimits) :
    engine.instantiate [] module limits = true ↔
      engine.imports module = [] ∧ engine.starts module limits = true := by
  unfold Engine.instantiate
  rw [Bool.and_eq_true]
  cases engine.imports module with
  | nil => simp
  | cons first rest => simp

/-- The dependencies pass if and only if each is a plugin id other than the plugin's own. -/
theorem validate_dependencies_eq_ok {id : String} {dependencies : List String} :
    validateDependencies id dependencies = .ok () ↔
      ∀ dependency ∈ dependencies, idRe dependency = true ∧ dependency ≠ id := by
  induction dependencies with
  | nil => simp [validateDependencies]
  | cons dependency rest ih =>
      rw [validateDependencies, List.forall_mem_cons, ← ih]
      by_cases hre : idRe dependency = false
      · simp [hre]
      · rw [if_neg hre]
        by_cases hid : dependency = id
        · simp [hid]
        · simp [hre, hid]

/-- A manifest passes if and only if each check of `validate_manifest` does. -/
theorem validate_manifest_eq_ok {semver : Semver} {manifest : PluginManifest} :
    validateManifest semver manifest = .ok () ↔
      idRe manifest.id = true ∧
      (semver.parse manifest.version).isSome = true ∧
      (∃ minHost, semver.parse manifest.minHostVersion = some minHost ∧
        semver.lt ((semver.parse hostVersion).getD (semver.new 0 1 0)) minHost = false) ∧
      (∀ dependency ∈ manifest.dependencies,
        idRe dependency = true ∧ dependency ≠ manifest.id) ∧
      manifest.author ≠ "" ∧ manifest.description ≠ "" := by
  rw [← validate_dependencies_eq_ok]
  unfold validateManifest
  by_cases hid : idRe manifest.id = false
  · simp [hid]
  by_cases hversion : (semver.parse manifest.version).isNone = true
  · simp [hid, Option.isNone_iff_eq_none.mp hversion]
  rw [if_neg hid, if_neg hversion]
  rw [Bool.not_eq_false] at hid
  obtain ⟨version, hversion⟩ := Option.ne_none_iff_exists'.mp
    (mt Option.isNone_iff_eq_none.mpr hversion)
  simp only [hid, hversion, Option.isSome_some, true_and]
  cases semver.parse manifest.minHostVersion with
  | none => simp
  | some minHost =>
      dsimp only
      by_cases hold : semver.lt ((semver.parse hostVersion).getD (semver.new 0 1 0)) minHost = true
      · simp [hold]
      · rw [if_neg hold]
        cases validateDependencies manifest.id manifest.dependencies with
        | error error => simp [bind, Except.bind]
        | ok _ =>
            by_cases hauthor : manifest.author = ""
            · simp [bind, Except.bind, hauthor]
            · by_cases hdescription : manifest.description = ""
              · simp [bind, Except.bind, hauthor, hdescription]
              · simp [bind, Except.bind, hold, hauthor, hdescription]

/-- A manifest that `extract_manifest` returns has passed `validate_manifest`. -/
theorem validate_manifest_of_extract {platform : Platform} {module : platform.engine.Module}
    {limits : SandboxLimits} {manifest : PluginManifest}
    (h : extractManifest platform module limits = .ok manifest) :
    validateManifest platform.semver manifest = .ok () := by
  unfold extractManifest at h
  split at h
  · cases h
  · cases h
  · split at h
    · cases h
    · split at h
      · cases h
      · cases h
      · cases h
      · split at h
        · cases h
        · rename_i decoded _
          cases hvalid : validateManifest platform.semver decoded with
          | error error =>
              rw [hvalid] at h
              cases h
          | ok _ =>
              rw [hvalid] at h
              cases h
              exact hvalid

/-- A load succeeds if and only if each of its steps does, and it returns the module, the limits
of its own tier and the manifest. -/
theorem load_plugin_eq_ok {platform : Platform} {input : LoadInput}
    {loaded : LoadedPlugin platform.engine} :
    loadPlugin platform input = .ok loaded ↔
      platform.engine.compile input.wasmBytes = some loaded.module ∧
      verifySignature platform.ed25519 input.wasmBytes input.sigData input.trustedKeys input.tier =
        .ok () ∧
      platform.engine.instantiate [] loaded.module loaded.limits = true ∧
      (∃ version, checkAbiVersion platform.engine loaded.module loaded.limits = .ok version) ∧
      extractManifest platform loaded.module loaded.limits = .ok loaded.manifest ∧
      loaded.tier = input.tier ∧ loaded.limits = SandboxLimits.forTier input.tier := by
  obtain ⟨manifest, tier, module, limits⟩ := loaded
  unfold loadPlugin
  dsimp only
  constructor
  · intro h
    split at h
    · cases h
    · rename_i compiled hcompiled
      split at h
      · cases h
      · rename_i hsigned
        split at h
        · cases h
        · rename_i hinstantiated
          cases habi : checkAbiVersion platform.engine compiled (.forTier input.tier) with
          | error error =>
              rw [habi] at h
              cases h
          | ok version =>
              cases hextracted : extractManifest platform compiled (.forTier input.tier) with
              | error error =>
                  rw [habi, hextracted] at h
                  cases h
              | ok extracted =>
                  rw [habi, hextracted] at h
                  cases h
                  exact ⟨hcompiled, hsigned, by simpa using hinstantiated, ⟨_, habi⟩, hextracted,
                    rfl, rfl⟩
  · rintro ⟨hcompiled, hsigned, hinstantiated, ⟨version, habi⟩, hextracted, htier, hlimits⟩
    subst hlimits
    rw [hcompiled]
    dsimp only
    rw [hsigned]
    dsimp only
    rw [if_neg (by simp [hinstantiated]), habi, hextracted, htier]
    rfl

/-- A call of `load_plugin` that succeeded. -/
structure LoadCall (platform : Platform) where
  input : LoadInput
  loaded : LoadedPlugin platform.engine
  succeeded : loadPlugin platform input = .ok loaded

namespace LoadCall

variable {platform : Platform} (call : LoadCall platform)

/-- The manifest of a loaded plugin is valid. -/
theorem validated : validateManifest platform.semver call.loaded.manifest = .ok () := by
  obtain ⟨_, _, _, _, hextracted, _⟩ := load_plugin_eq_ok.mp call.succeeded
  exact validate_manifest_of_extract hextracted

/-- A loaded plugin does not depend on itself. -/
theorem id_not_mem_dependencies :
    call.loaded.manifest.id ∉ call.loaded.manifest.dependencies := by
  intro hmem
  obtain ⟨_, _, _, hdependencies, _⟩ := validate_manifest_eq_ok.mp call.validated
  exact (hdependencies _ hmem).2 rfl

/-- A plugin that was loaded with the limits of the trusted tier has passed its signature
check. -/
theorem verified_of_trusted (h : call.loaded.limits = .forTier .trusted) :
    verifySignature platform.ed25519 call.input.wasmBytes call.input.sigData
      call.input.trustedKeys .trusted = .ok () := by
  obtain ⟨_, hsigned, _, _, _, _, hlimits⟩ := load_plugin_eq_ok.mp call.succeeded
  rwa [SandboxLimits.for_tier_injective (hlimits.symm.trans h)] at hsigned

end LoadCall

end CorvidNano.Host.Loader
