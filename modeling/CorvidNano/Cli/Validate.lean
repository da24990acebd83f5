import CorvidNano.Host.Invoke

/-!
# Validation of a built plugin

`validate_plugin` in `validate.rs` of the plugin CLI: the report that `corvid-plugin validate`
and `corvid-plugin install` make of a plugin file, from the host's own `load_plugin` at the
untrusted tier and from checks on the manifest that the host does not make.

`agrees_iff` says for which files the report has no error exactly when the host loads the plugin
at the untrusted tier.
-/

namespace CorvidNano.Cli.Validate

open Host Loader Sdk Signature

/-- A single check of a report. -/
structure Check where
  name : String
  passed : Bool
  detail : String
  deriving DecidableEq

/-- The result of validating a plugin. -/
structure ValidationReport where
  manifest : Option PluginManifest
  abiVersion : Option Nat
  checks : List Check

/-- `ValidationReport::is_ok`. -/
def ValidationReport.isOk (report : ValidationReport) : Bool :=
  report.checks.all Check.passed

/-- `ValidationReport::error_count`. -/
def ValidationReport.errorCount (report : ValidationReport) : Nat :=
  (report.checks.filter fun check => !check.passed).length

/-- A report is fine if and only if it counts no errors. -/
theorem is_ok_iff_error_count (report : ValidationReport) :
    report.isOk = true ↔ report.errorCount = 0 := by
  simp [ValidationReport.isOk, ValidationReport.errorCount]

/-- The report with further checks. -/
def ValidationReport.push (report : ValidationReport) (checks : List Check) : ValidationReport :=
  { report with checks := report.checks ++ checks }

/-- The file starts with the magic number of binary modules, `\0asm`. -/
def isWasm (wasmBytes : List UInt8) : Bool :=
  wasmBytes.take 4 == [0x00, 0x61, 0x73, 0x6d]

/-- The texts of the capabilities that have been seen before. -/
def duplicates (seen : List String) : List Capability → List String
  | [] => []
  | capability :: rest =>
      if seen.contains capability.display then capability.display :: duplicates seen rest
      else duplicates (capability.display :: seen) rest

/-- A capability that an untrusted plugin must not declare. -/
def isRestricted : Capability → Bool
  | .network _ | .fsProjectDir => true
  | _ => false

/-- `validate_capabilities_for_tier`. -/
def validateCapabilitiesForTier (capabilities : List Capability) (tier : TrustTier) :
    List Check :=
  let repeated := duplicates [] capabilities
  let hasRestricted := capabilities.any isRestricted
  let allAllowed := tier.variant ++ " tier — all capabilities allowed"
  [{ name := "Capability uniqueness"
     passed := repeated.isEmpty
     detail :=
       if repeated.isEmpty then toString capabilities.length ++ " capabilities declared"
       else "duplicates: " ++ ", ".intercalate repeated },
   if tier = .untrusted then
     { name := "Tier capability check"
       passed := !hasRestricted
       detail :=
         if hasRestricted then "Untrusted plugins cannot declare Network or FsProjectDir"
         else allAllowed }
   else { name := "Tier capability check", passed := true, detail := allAllowed }]

/-- `validate_manifest_fields`. -/
def validateManifestFields (semver : Semver) (manifest : PluginManifest) : List Check :=
  let idOk := idRe manifest.id
  let verOk := (semver.parse manifest.version).isSome
  let minOk := (semver.parse manifest.minHostVersion).isSome
  [{ name := "Plugin ID"
     passed := idOk
     detail :=
       if idOk then "'" ++ manifest.id ++ "'"
       else "'" ++ manifest.id ++ "' does not match " ++ idReText },
   { name := "Version"
     passed := verOk
     detail :=
       if verOk then manifest.version else "'" ++ manifest.version ++ "' is not valid semver" },
   { name := "Min host version"
     passed := minOk
     detail :=
       if minOk then manifest.minHostVersion
       else "'" ++ manifest.minHostVersion ++ "' is not valid semver" }] ++
    validateCapabilitiesForTier manifest.capabilities manifest.trustTier

/-- The checks that report an error of `load_plugin`, told apart by words of its text. -/
def loadFailureChecks (text : String) : List Check :=
  if Text.contains "ABI" text || Text.contains "abi" text then
    [{ name := "ABI version", passed := false, detail := text }]
  else if Text.contains "manifest" text || Text.contains "Manifest" text then
    [{ name := "ABI version", passed := true, detail := "OK" },
      { name := "Manifest", passed := false, detail := text }]
  else [{ name := "WASM load", passed := false, detail := text }]

/-- The load that the validation tries, without signature and trusted keys. -/
def validationInput (wasmBytes : List UInt8) : LoadInput where
  wasmBytes := wasmBytes
  sigData := none
  trustedKeys := .notFound
  tier := .untrusted

/-- `extract_and_validate`. The result is `none` if `load_plugin` panics. -/
def extractAndValidate (platform : Platform) (wasmBytes : List UInt8)
    (report : ValidationReport) : Option ValidationReport :=
  match loadPlugin platform (validationInput wasmBytes) with
  | .ok loaded =>
      let compatible : Check := {
        name := "ABI version"
        passed := true
        detail := "compatible (host range [" ++ toString abiMinCompatible ++ ", " ++
          toString abiVersion ++ "])" }
      let checked := report.push
        (compatible :: validateManifestFields platform.semver loaded.manifest)
      some { checked with manifest := some loaded.manifest, abiVersion := some abiVersion }
  | .error error => error.display.map fun text => report.push (loadFailureChecks text)

/-- `validate_plugin`, for a file that can be read. -/
def validatePlugin (platform : Platform) (wasmBytes : List UInt8) : Option ValidationReport :=
  let isWasm := isWasm wasmBytes
  let report : ValidationReport := {
    manifest := none
    abiVersion := none
    checks := [{
      name := "WASM format"
      passed := isWasm
      detail :=
        if isWasm then toString wasmBytes.length ++ " bytes, valid WASM header"
        else "not a valid WASM file (missing \\0asm header)" }] }
  if isWasm then extractAndValidate platform wasmBytes report else some report

/-- `corvid-plugin validate` reports no error for the file. -/
def ReportsNoError (platform : Platform) (wasmBytes : List UInt8) : Prop :=
  ∃ report, validatePlugin platform wasmBytes = some report ∧ report.isOk = true

/-- The host accepts the file at the untrusted tier, with the signature file and the trusted keys
that it finds. -/
def HostAccepts (platform : Platform) (wasmBytes : List UInt8) (sigData : Option TextFile)
    (trustedKeys : TrustedKeys) : Prop :=
  ∃ loaded, loadPlugin platform { wasmBytes, sigData, trustedKeys, tier := .untrusted } =
    .ok loaded

/-- The validation has no error exactly when the host accepts the file. -/
def Agrees (platform : Platform) (wasmBytes : List UInt8) (sigData : Option TextFile)
    (trustedKeys : TrustedKeys) : Prop :=
  ReportsNoError platform wasmBytes ↔ HostAccepts platform wasmBytes sigData trustedKeys

/-- The file is a module that compiles, starts without imports, has a compatible ABI version and
carries this valid manifest. -/
def Carries (platform : Platform) (wasmBytes : List UInt8) (manifest : PluginManifest) : Prop :=
  ∃ module, platform.engine.compile wasmBytes = some module ∧
    platform.engine.instantiate [] module (.forTier .untrusted) = true ∧
    (∃ version, checkAbiVersion platform.engine module (.forTier .untrusted) = .ok version) ∧
    extractManifest platform module (.forTier .untrusted) = .ok manifest

/-- The manifest declares the untrusted tier and a capability that this tier must not have. -/
def DeclaresRestricted (manifest : PluginManifest) : Prop :=
  manifest.trustTier = .untrusted ∧
    ∃ capability ∈ manifest.capabilities, isRestricted capability = true

/-- `DeclaresRestricted` is decided by looking through the capabilities. -/
instance (manifest : PluginManifest) : Decidable (DeclaresRestricted manifest) :=
  inferInstanceAs (Decidable (_ ∧ _))

/-! ## What the checks amount to -/

/-- No text is a duplicate if and only if the texts are distinct and none was seen before. -/
theorem duplicates_eq_nil_iff {seen : List String} {capabilities : List Capability} :
    duplicates seen capabilities = [] ↔
      (capabilities.map Capability.display).Nodup ∧
        ∀ capability ∈ capabilities, capability.display ∉ seen := by
  induction capabilities generalizing seen with
  | nil => simp [duplicates]
  | cons capability rest ih =>
      by_cases hseen : capability.display ∈ seen
      · simp [duplicates, hseen]
      · rw [duplicates, if_neg (by simpa using hseen), ih, List.map_cons, List.nodup_cons,
          List.forall_mem_cons]
        constructor
        · rintro ⟨hdistinct, hfresh⟩
          refine ⟨⟨fun hmem => ?_, hdistinct⟩, hseen, fun other hother hmem => ?_⟩
          · obtain ⟨other, hother, heq⟩ := List.mem_map.mp hmem
            exact hfresh other hother (heq ▸ List.mem_cons_self)
          · exact hfresh other hother (List.mem_cons_of_mem _ hmem)
        · rintro ⟨⟨hnew, hdistinct⟩, -, hfresh⟩
          refine ⟨hdistinct, fun other hother hmem => ?_⟩
          rcases List.mem_cons.mp hmem with heq | hmem
          · exact hnew (heq ▸ List.mem_map_of_mem hother)
          · exact hfresh other hother hmem

/-- The checks on the capabilities pass if and only if their texts are distinct and none is
restricted for the declared tier. -/
theorem capability_checks_pass_iff (capabilities : List Capability) (tier : TrustTier) :
    (validateCapabilitiesForTier capabilities tier).all Check.passed = true ↔
      (capabilities.map Capability.display).Nodup ∧
        ¬ (tier = .untrusted ∧ ∃ capability ∈ capabilities, isRestricted capability = true) := by
  have hdistinct : (duplicates [] capabilities).isEmpty = true ↔
      (capabilities.map Capability.display).Nodup := by
    rw [List.isEmpty_iff, duplicates_eq_nil_iff]
    simp
  rw [← hdistinct]
  by_cases htier : tier = .untrusted
  · simp [validateCapabilitiesForTier, htier]
  · simp [validateCapabilitiesForTier, htier]

/-- The checks on a valid manifest pass if and only if those on its capabilities do. -/
theorem manifest_checks_pass_iff {semver : Semver} {manifest : PluginManifest}
    (hvalid : validateManifest semver manifest = .ok ()) :
    (validateManifestFields semver manifest).all Check.passed = true ↔
      (manifest.capabilities.map Capability.display).Nodup ∧ ¬ DeclaresRestricted manifest := by
  obtain ⟨hid, hversion, ⟨minHost, hminHost, _⟩, _⟩ := validate_manifest_eq_ok.mp hvalid
  unfold DeclaresRestricted
  rw [← capability_checks_pass_iff]
  simp [validateManifestFields, hid, hversion, hminHost]

/-- A failed load always fails a check. -/
theorem load_failure_checks_fail (text : String) :
    (loadFailureChecks text).all Check.passed = false := by
  unfold loadFailureChecks
  split
  · rfl
  · split <;> rfl

/-- Further checks keep a report free of errors if and only if they pass. -/
theorem is_ok_push (report : ValidationReport) (checks : List Check) :
    (report.push checks).isOk = (report.isOk && checks.all Check.passed) := by
  simp [ValidationReport.isOk, ValidationReport.push]

/-- The validation has no error if and only if the file has the magic number of binary modules,
its load succeeds, and the checks on the capabilities pass. -/
theorem reports_no_error_iff {platform : Platform} {wasmBytes : List UInt8} :
    ReportsNoError platform wasmBytes ↔
      isWasm wasmBytes = true ∧
        ∃ loaded, loadPlugin platform (validationInput wasmBytes) = .ok loaded ∧
          (loaded.manifest.capabilities.map Capability.display).Nodup ∧
          ¬ DeclaresRestricted loaded.manifest := by
  unfold ReportsNoError validatePlugin
  cases hmagic : isWasm wasmBytes with
  | false => simp [ValidationReport.isOk]
  | true =>
      dsimp only
      rw [if_pos rfl]
      unfold extractAndValidate
      cases hload : loadPlugin platform (validationInput wasmBytes) with
      | error error =>
          refine iff_of_false ?_ (by simp)
          rintro ⟨report, hreport, hok⟩
          obtain ⟨text, _, rfl⟩ := Option.map_eq_some_iff.mp hreport
          rw [is_ok_push, load_failure_checks_fail, Bool.and_false] at hok
          cases hok
      | ok loaded =>
          have hvalid := (LoadCall.mk _ loaded hload).validated
          simp only [Option.some.injEq, exists_eq_left', Except.ok.injEq, true_and]
          rw [← manifest_checks_pass_iff hvalid]
          show (ValidationReport.push _ _).isOk = true ↔ _
          rw [is_ok_push]
          rfl

/-- The host loads a plugin at the untrusted tier if and only if the file carries its manifest.
The signature file and the trusted keys do not matter. -/
theorem load_untrusted_iff {platform : Platform} {wasmBytes : List UInt8}
    {sigData : Option TextFile} {trustedKeys : TrustedKeys} {manifest : PluginManifest} :
    (∃ loaded, loadPlugin platform { wasmBytes, sigData, trustedKeys, tier := .untrusted } =
        .ok loaded ∧ loaded.manifest = manifest) ↔ Carries platform wasmBytes manifest := by
  constructor
  · rintro ⟨loaded, hload, rfl⟩
    obtain ⟨hcompiled, _, hinstantiated, habi, hextracted, _, hlimits⟩ :=
      load_plugin_eq_ok.mp hload
    rw [hlimits] at hinstantiated habi hextracted
    exact ⟨loaded.module, hcompiled, hinstantiated, habi, hextracted⟩
  · rintro ⟨module, hcompiled, hinstantiated, habi, hextracted⟩
    refine ⟨{ manifest, tier := .untrusted, module, limits := .forTier .untrusted }, ?_, rfl⟩
    exact load_plugin_eq_ok.mpr ⟨hcompiled, rfl, hinstantiated, habi, hextracted, rfl, rfl⟩

/-- The validation and the host agree on a file if and only if the file carries no valid manifest,
or has the magic number of binary modules and a manifest whose capabilities have distinct texts
and suit the declared tier. -/
theorem agrees_iff {platform : Platform} {wasmBytes : List UInt8} {sigData : Option TextFile}
    {trustedKeys : TrustedKeys} :
    Agrees platform wasmBytes sigData trustedKeys ↔
      ∀ manifest, Carries platform wasmBytes manifest →
        isWasm wasmBytes = true ∧ (manifest.capabilities.map Capability.display).Nodup ∧
          ¬ DeclaresRestricted manifest := by
  unfold Agrees HostAccepts
  rw [reports_no_error_iff]
  constructor
  · intro hagrees manifest hcarries
    obtain ⟨accepted, haccepted, _⟩ := load_untrusted_iff.mpr hcarries
    obtain ⟨hmagic, loaded, hload, hpasses⟩ := hagrees.mpr ⟨accepted, haccepted⟩
    obtain ⟨offered, hoffered, rfl⟩ := load_untrusted_iff.mpr hcarries
    have hsame : loaded = offered := Except.ok.inj (hload.symm.trans hoffered)
    subst hsame
    exact ⟨hmagic, hpasses⟩
  · intro hpasses
    constructor
    · rintro ⟨_, loaded, hload, _⟩
      obtain ⟨accepted, haccepted, _⟩ :=
        load_untrusted_iff.mpr (load_untrusted_iff.mp ⟨loaded, hload, rfl⟩)
      exact ⟨accepted, haccepted⟩
    · rintro ⟨accepted, haccepted⟩
      have hcarries := load_untrusted_iff.mp ⟨accepted, haccepted, rfl⟩
      obtain ⟨loaded, hload, hmanifest⟩ := load_untrusted_iff.mpr hcarries
      obtain ⟨hmagic, hdistinct, hsuits⟩ := hpasses _ hcarries
      rw [← hmanifest] at hdistinct hsuits
      exact ⟨hmagic, loaded, hload, hdistinct, hsuits⟩

/-- A platform on which every file with the magic number of binary modules is the sample plugin
that asks for the network. -/
def networkPlatform : Platform :=
  { Invoke.samplePlatform with
    engine := { Invoke.samplePlatform.engine with
      compile := fun wasmBytes => if isWasm wasmBytes then some .network else none } }

/-- An untrusted plugin that asks for the network is loaded by the host, and fails the
validation. -/
theorem untrusted_network_fails_validation :
    ¬ Agrees networkPlatform [0x00, 0x61, 0x73, 0x6d, 0x01, 0x00, 0x00, 0x00] none .notFound := by
  intro hagrees
  obtain ⟨_, loaded, hload, _, hsuits⟩ := reports_no_error_iff.mp (hagrees.mpr ⟨_, rfl⟩)
  cases hload
  exact hsuits ⟨rfl, .network ["example.com"], List.mem_cons_self, rfl⟩

end CorvidNano.Cli.Validate
