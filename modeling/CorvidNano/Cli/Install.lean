import CorvidNano.A2a.Request
import CorvidNano.Cli.Validate
import CorvidNano.Library.Fallible
import Mathlib.Logic.Function.Basic

/-!
# The installation of a plugin

`cmd_install` of the plugin CLI: it downloads `plugin.toml` and the module of a release, checks
the signature, writes the module to its place in the plugin directory, validates what it has
written, and registers the plugin in the database. When the validation fails it removes the file.

`leaves_directory_iff` says which installations that do not succeed leave the files of the
directory as they were.
-/

namespace CorvidNano.Cli.Install

open A2a (splitOnce)
open Fallible (orError bind_eq_ok map_error_eq_ok or_error_eq_ok)
open Host Loader Sdk Signature Validate

/-- What a request returns. A status is its text. -/
inductive Fetched where
  | unreachable
  | refused (status : String)
  | interrupted
  | body (bytes : List UInt8)

/-- The section `[plugin]` of `plugin.toml`. A value that is no string counts as absent. -/
structure PluginSection where
  id : Option String
  trustTier : Option String

/-- `plugin.toml`, as far as it is read. -/
structure PluginToml where
  plugin : Option PluginSection
  wasmArtifact : Option String

/-- A row of the table `plugins`. -/
structure PluginRow where
  id : String
  version : String
  tier : String
  wasmHash : String
  installedAt : Nat
  enabled : Bool

/-- How a file is written: it cannot be opened, the writing stops after some bytes, or all is
written. -/
inductive Written where
  | notOpened
  | interrupted (length : Nat)
  | complete

/-- What an installation meets: the releases, the TOML reader, the trusted keys, the plugin
directory, and which operations on files and on the database succeed. -/
structure World (Location : Type) where
  platform : Platform
  get : String → Fetched
  parseToml : List UInt8 → Option PluginToml
  trustedKeys : TrustedKeys
  sha256Hex : List UInt8 → String
  join : String → Location
  inDirectory : Location → Prop
  dirCreated : Bool
  written : Written
  readable : Bool
  removable : Bool
  dbOpened : Bool
  tableCreated : Bool
  rowRead : Bool
  rowInserted : Bool
  now : Nat

/-- The files by their locations, and the table `plugins`. -/
structure State (Location : Type) where
  files : Location → Option (List UInt8)
  plugins : List PluginRow

/-- The errors of an installation. -/
inductive InstallError where
  | sourceFormat
  | fetchToml
  | releaseNotFound (owner repo tag status : String)
  | readToml
  | parseToml
  | missingPlugin
  | missingId
  | invalidTier (text : String)
  | missingArtifact
  | downloadArtifact
  | artifactNotFound (artifact status : String)
  | readArtifact
  | signatureRequired
  | readSignature
  | signature (error : SignatureError)
  | createDir
  | writeFile
  | readFile
  | panicked
  | validationFailed
  | idMismatch (pluginId manifestId : String)
  | openDatabase
  | createTable
  | insertRow

/-- The text of an error. One of the libraries alone has none. -/
def InstallError.message : InstallError → Option String
  | .sourceFormat => some "source must be in format owner/repo@version"
  | .fetchToml => some "failed to fetch plugin.toml from release"
  | .releaseNotFound owner repo tag status =>
      some ("release not found: " ++ owner ++ "/" ++ repo ++ "@" ++ tag ++ " (HTTP " ++ status ++
        ")")
  | .parseToml => some "failed to parse plugin.toml"
  | .missingPlugin => some "plugin.toml missing [plugin] section"
  | .missingId => some "plugin.toml missing id"
  | .invalidTier text =>
      some ("invalid tier '" ++ text ++ "' — expected trusted, verified, or untrusted")
  | .missingArtifact => some "plugin.toml missing [build].wasm-artifact"
  | .downloadArtifact => some "failed to download WASM artifact"
  | .artifactNotFound artifact status =>
      some ("WASM artifact not found: " ++ artifact ++ " (HTTP " ++ status ++ ")")
  | .signatureRequired =>
      some "Ed25519 signature required for Trusted tier install — .sig file not found"
  | .readSignature => some "failed to read .sig file contents"
  | .signature _ => some "Ed25519 signature verification failed"
  | .validationFailed => some "plugin validation failed"
  | .idMismatch pluginId manifestId =>
      some ("ID mismatch: plugin.toml says '" ++ pluginId ++ "' but WASM manifest says '" ++
        manifestId ++ "'")
  | .openDatabase => some "failed to open plugin database"
  | .readToml | .readArtifact | .createDir | .writeFile | .readFile | .panicked | .createTable
  | .insertRow => none

/-- How an installation ends. -/
inductive Exit where
  | installed
  | alreadyInstalled
  | failed (error : InstallError)

/-- A plugin that has been downloaded. -/
structure Download where
  owner : String
  repo : String
  version : String
  pluginId : String
  tierStr : String
  tier : TrustTier
  artifact : String
  wasmBytes : List UInt8

/-- `parse_tier`. -/
def parseTier (text : String) : Option TrustTier :=
  let lower := String.ofList (Text.lower text.toList)
  if lower = "trusted" then some .trusted
  else if lower = "verified" then some .verified
  else if lower = "untrusted" then some .untrusted
  else none

/-- `parse_source`. -/
def parseSource (source : String) : Option (String × String × String) :=
  match splitOnce '@' source.toList with
  | none => none
  | some (repoPart, version) =>
      match splitOnce '/' repoPart with
      | none => none
      | some (owner, repo) =>
          if owner = [] ∨ repo = [] ∨ version = [] then none
          else some (String.ofList owner, String.ofList repo, String.ofList version)

/-- The address of a file of a release. -/
def releaseUrl (owner repo version file : String) : String :=
  "https://github.com/" ++ owner ++ "/" ++ repo ++ "/releases/download/v" ++ version ++ "/" ++ file

section

variable {Location : Type} (world : World Location)

/-- The body of a response with a status of success. -/
def fetch (url : String) (unreachable interrupted : InstallError)
    (refused : String → InstallError) : Except InstallError (List UInt8) :=
  match world.get url with
  | .unreachable => .error unreachable
  | .refused status => .error (refused status)
  | .interrupted => .error interrupted
  | .body bytes => .ok bytes

/-- The third step of `cmd_install`, for a plugin of the trusted tier. -/
def checkSignature (plugin : Download) : Except InstallError Unit :=
  if plugin.tier = .trusted then do
    let sigData ← fetch world
      (releaseUrl plugin.owner plugin.repo plugin.version (plugin.artifact ++ ".sig"))
      .signatureRequired .readSignature fun _ => .signatureRequired
    (verifySignature world.platform.ed25519 plugin.wasmBytes
      (some ((String.fromUTF8? ⟨sigData.toArray⟩).map String.toList)) world.trustedKeys
      plugin.tier).mapError .signature
  else .ok ()

/-- The first three steps of `cmd_install`. They write nothing. -/
def download (source : String) : Except InstallError Download := do
  let (owner, repo, version) ← orError .sourceFormat (parseSource source)
  let tomlBytes ← fetch world (releaseUrl owner repo version "plugin.toml") .fetchToml .readToml
    (.releaseNotFound owner repo ("v" ++ version))
  let pluginToml ← orError .parseToml (world.parseToml tomlBytes)
  let pluginSection ← orError .missingPlugin pluginToml.plugin
  let pluginId ← orError .missingId pluginSection.id
  let tierStr := pluginSection.trustTier.getD "untrusted"
  let tier ← orError (.invalidTier tierStr) (parseTier tierStr)
  let artifact ← orError .missingArtifact pluginToml.wasmArtifact
  let wasmBytes ← fetch world (releaseUrl owner repo version artifact) .downloadArtifact
    .readArtifact (.artifactNotFound artifact)
  let plugin : Download := { owner, repo, version, pluginId, tierStr, tier, artifact, wasmBytes }
  checkSignature world plugin
  return plugin

/-- The version of the plugin in the database. A query that fails finds none. -/
def existing (plugin : Download) (state : State Location) : Option String :=
  if world.rowRead then
    (state.plugins.find? fun row => row.id == plugin.pluginId).map PluginRow.version
  else none

/-- The sixth step of `cmd_install`. -/
def register (plugin : Download) (state : State Location) : Exit × State Location :=
  if !world.dbOpened then (.failed .openDatabase, state)
  else if !world.tableCreated then (.failed .createTable, state)
  else if existing world plugin state = some plugin.version then (.alreadyInstalled, state)
  else if !world.rowInserted then (.failed .insertRow, state)
  else
    let row : PluginRow := {
      id := plugin.pluginId
      version := plugin.version
      tier := plugin.tierStr
      wasmHash := world.sha256Hex plugin.wasmBytes
      installedAt := world.now
      enabled := true }
    (.installed, { state with
      plugins := (state.plugins.filter fun other => other.id != plugin.pluginId) ++ [row] })

variable [DecidableEq Location]

/-- The state with another content of the plugin's file. -/
def setFile (plugin : Download) (content : Option (List UInt8)) (state : State Location) :
    State Location :=
  { state with files := Function.update state.files (world.join plugin.artifact) content }

/-- `remove_file`, whose error is ignored. -/
def removeFile (plugin : Download) (state : State Location) : State Location :=
  if world.removable then setFile world plugin none state else state

/-- The fifth step of `cmd_install`, with the report on the file. -/
def checkReport (plugin : Download) (report : ValidationReport) (state : State Location) :
    Exit × State Location :=
  if !report.isOk then (.failed .validationFailed, removeFile world plugin state)
  else
    match report.manifest with
    | some manifest =>
        if manifest.id ≠ plugin.pluginId then
          (.failed (.idMismatch plugin.pluginId manifest.id), removeFile world plugin state)
        else register world plugin state
    | none => register world plugin state

/-- The validation of the file that was written, and the steps after it. -/
def checkFile (plugin : Download) (state : State Location) : Exit × State Location :=
  if !world.readable then (.failed .readFile, state)
  else
    match validatePlugin world.platform plugin.wasmBytes with
    | none => (.failed .panicked, state)
    | some report => checkReport world plugin report state

/-- The steps of `cmd_install` from the fourth on. -/
def place (plugin : Download) (state : State Location) : Exit × State Location :=
  if !world.dirCreated then (.failed .createDir, state)
  else
    match world.written with
    | .notOpened => (.failed .writeFile, state)
    | .interrupted length =>
        (.failed .writeFile, setFile world plugin (some (plugin.wasmBytes.take length)) state)
    | .complete => checkFile world plugin (setFile world plugin (some plugin.wasmBytes) state)

/-- `cmd_install`. The running host is only notified. -/
def cmdInstall (source : String) (state : State Location) : Exit × State Location :=
  match download world source with
  | .error error => (.failed error, state)
  | .ok plugin => place world plugin state

/-! ## What an installation should keep -/

/-- The files of the plugin directory keep their content. -/
def KeepsFiles (before after : Location → Option (List UInt8)) : Prop :=
  ∀ location, world.inDirectory location → ∀ content, before location = some content →
    after location = some content

/-- An installation that fails, or finds the version installed, leaves the plugin directory. -/
def LeavesDirectory (source : String) (state : State Location) : Prop :=
  (cmdInstall world source state).1 ≠ .installed →
    KeepsFiles world state.files (cmdInstall world source state).2.files

/-! ## When it does -/

/-- The plugin is downloaded from the release, and the signature is right if it needs one. -/
structure Downloaded (source : String) (plugin : Download) : Prop where
  source : parseSource source = some (plugin.owner, plugin.repo, plugin.version)
  toml : ∃ tomlBytes pluginToml pluginSection,
    world.get (releaseUrl plugin.owner plugin.repo plugin.version "plugin.toml") =
        .body tomlBytes ∧
      world.parseToml tomlBytes = some pluginToml ∧ pluginToml.plugin = some pluginSection ∧
      pluginSection.id = some plugin.pluginId ∧
      pluginSection.trustTier.getD "untrusted" = plugin.tierStr ∧
      parseTier plugin.tierStr = some plugin.tier ∧
      pluginToml.wasmArtifact = some plugin.artifact
  module : world.get (releaseUrl plugin.owner plugin.repo plugin.version plugin.artifact) =
    .body plugin.wasmBytes
  signed : plugin.tier = .trusted → ∃ sigData,
    world.get (releaseUrl plugin.owner plugin.repo plugin.version (plugin.artifact ++ ".sig")) =
        .body sigData ∧
      verifySignature world.platform.ed25519 plugin.wasmBytes
        (some ((String.fromUTF8? ⟨sigData.toArray⟩).map String.toList)) world.trustedKeys
        plugin.tier = .ok ()

/-- The report is made, has no error, and does not name another plugin. -/
def Validates (plugin : Download) : Prop :=
  ∃ report, validatePlugin world.platform plugin.wasmBytes = some report ∧
    report.isOk = true ∧ ∀ manifest ∈ report.manifest, manifest.id = plugin.pluginId

/-- The report is made, and has an error or names another plugin. -/
def Rejects (plugin : Download) : Prop :=
  ∃ report, validatePlugin world.platform plugin.wasmBytes = some report ∧
    (report.isOk = false ∨ ∃ manifest ∈ report.manifest, manifest.id ≠ plugin.pluginId)

/-- The database takes the plugin, and does not have this version of it yet. -/
def Registers (plugin : Download) (state : State Location) : Prop :=
  world.dbOpened = true ∧ world.tableCreated = true ∧
    existing world plugin state ≠ some plugin.version ∧ world.rowInserted = true

/-- What has to hold of a file `old` in the place of a plugin: it is not opened for writing, or
what is written of the new one until an error is the same, or the new one is written, read back,
valid and registered, or it is the same and not removed. -/
def Undamaged (plugin : Download) (state : State Location) (old : List UInt8) : Prop :=
  match world.written with
  | .notOpened => True
  | .interrupted length => old = plugin.wasmBytes.take length
  | .complete =>
      (world.readable = true ∧ Validates world plugin ∧ Registers world plugin state) ∨
        (old = plugin.wasmBytes ∧
          ¬(world.readable = true ∧ Rejects world plugin ∧ world.removable = true))

/-! ## Files -/

omit [DecidableEq Location] in
theorem fetch_eq_ok {url : String} {unreachable interrupted : InstallError}
    {refused : String → InstallError} {bytes : List UInt8} :
    fetch world url unreachable interrupted refused = .ok bytes ↔ world.get url = .body bytes := by
  unfold fetch
  cases world.get url with
  | unreachable => exact ⟨fun h => (by cases h), fun h => (by cases h)⟩
  | refused status => exact ⟨fun h => (by cases h), fun h => (by cases h)⟩
  | interrupted => exact ⟨fun h => (by cases h), fun h => (by cases h)⟩
  | body other => exact ⟨fun h => (by cases h; rfl), fun h => (by cases h; rfl)⟩

omit [DecidableEq Location] in
theorem check_signature_eq_ok {plugin : Download} :
    checkSignature world plugin = .ok () ↔ (plugin.tier = .trusted → ∃ sigData,
      world.get (releaseUrl plugin.owner plugin.repo plugin.version (plugin.artifact ++ ".sig")) =
          .body sigData ∧
        verifySignature world.platform.ed25519 plugin.wasmBytes
          (some ((String.fromUTF8? ⟨sigData.toArray⟩).map String.toList)) world.trustedKeys
          plugin.tier = .ok ()) := by
  unfold checkSignature
  by_cases htier : plugin.tier = .trusted
  · rw [if_pos htier]
    simp only [bind_eq_ok, map_error_eq_ok, fetch_eq_ok, htier, true_imp_iff]
  · rw [if_neg htier]
    exact iff_of_true rfl fun h => absurd h htier

omit [DecidableEq Location] in
/-- What the first three steps find. -/
theorem download_eq_ok {source : String} {plugin : Download} :
    download world source = .ok plugin ↔ Downloaded world source plugin := by
  unfold download
  simp only [bind_eq_ok, fetch_eq_ok, or_error_eq_ok]
  constructor
  · rintro ⟨⟨owner, repo, version⟩, hsource, tomlBytes, hget, pluginToml, hparse, pluginSection,
      hsection, pluginId, hid, tier, htier, artifact, hartifact, wasmBytes, hmodule, ⟨⟩, hsigned,
      hplugin⟩
    cases hplugin
    exact ⟨hsource, ⟨tomlBytes, pluginToml, pluginSection, hget, hparse, hsection, hid, rfl, htier,
      hartifact⟩, hmodule, (check_signature_eq_ok world).1 hsigned⟩
  · rintro ⟨hsource, ⟨tomlBytes, pluginToml, pluginSection, hget, hparse, hsection, hid, hstr,
      htier, hartifact⟩, hmodule, hsigned⟩
    rw [← hstr] at htier
    refine ⟨_, hsource, tomlBytes, hget, pluginToml, hparse, pluginSection, hsection, _, hid, _,
      htier, _, hartifact, _, hmodule, (), ?_, ?_⟩
    · rw [hstr]
      exact (check_signature_eq_ok world).2 hsigned
    · rw [hstr]
      rfl

omit [DecidableEq Location] in
/-- The database does not touch the files. -/
theorem files_register (plugin : Download) (state : State Location) :
    (register world plugin state).2.files = state.files := by
  unfold register
  repeat' split
  all_goals rfl

omit [DecidableEq Location] in
theorem register_installed_iff (plugin : Download) (state : State Location) :
    (register world plugin state).1 = .installed ↔ Registers world plugin state := by
  unfold register Registers
  cases world.dbOpened with
  | false => simp
  | true =>
      cases world.tableCreated with
      | false => simp
      | true =>
          by_cases hexisting : existing world plugin state = some plugin.version
          · simp [hexisting]
          · cases world.rowInserted with
            | false => simp [hexisting]
            | true => simp [hexisting]

/-- Another content of one file keeps the files if that file is outside of the directory, is
new, or had this content. -/
theorem keeps_files_set_iff (plugin : Download) (content : Option (List UInt8))
    (state : State Location) :
    KeepsFiles world state.files (setFile world plugin content state).files ↔
      (world.inDirectory (world.join plugin.artifact) →
        ∀ old, state.files (world.join plugin.artifact) = some old → content = some old) := by
  constructor
  · intro h hin old hold
    have hkept : Function.update state.files (world.join plugin.artifact) content
        (world.join plugin.artifact) = some old := h _ hin old hold
    rwa [Function.update_self] at hkept
  · intro h location hin old hold
    show Function.update state.files (world.join plugin.artifact) content location = some old
    by_cases heq : location = world.join plugin.artifact
    · subst heq
      rw [Function.update_self]
      exact h hin old hold
    · rw [Function.update_of_ne heq]
      exact hold

/-! ## The steps after the download -/

omit [DecidableEq Location] in
theorem keeps_files_refl (files : Location → Option (List UInt8)) :
    KeepsFiles world files files := fun _ _ _ h => h

omit [DecidableEq Location] in
/-- A plugin is not both validated and rejected. -/
theorem Validates.not_rejects {plugin : Download} (h : Validates world plugin) :
    ¬Rejects world plugin := by
  obtain ⟨report, hreport, hok, hid⟩ := h
  rintro ⟨other, hother, hbad⟩
  obtain rfl := Option.some.inj (hreport.symm.trans hother)
  cases hbad with
  | inl hfailed => exact absurd (hfailed.symm.trans hok) (by decide)
  | inr hmismatch =>
      obtain ⟨manifest, hmanifest, hne⟩ := hmismatch
      exact hne (hid manifest hmanifest)

/-- A plugin with a bad report is removed, and any other one is registered. -/
theorem check_report_cases (plugin : Download) (report : ValidationReport)
    (state : State Location) :
    ((report.isOk = false ∨ ∃ manifest ∈ report.manifest, manifest.id ≠ plugin.pluginId) ∧
        ∃ error, checkReport world plugin report state =
          (.failed error, removeFile world plugin state)) ∨
      ((report.isOk = true ∧ ∀ manifest ∈ report.manifest, manifest.id = plugin.pluginId) ∧
        checkReport world plugin report state = register world plugin state) := by
  unfold checkReport
  cases hok : report.isOk with
  | false => exact Or.inl ⟨Or.inl rfl, _, rfl⟩
  | true =>
      cases hmanifest : report.manifest with
      | none => exact Or.inr ⟨⟨rfl, fun _ h => (by cases h)⟩, rfl⟩
      | some manifest =>
          by_cases hid : manifest.id = plugin.pluginId
          · refine Or.inr ⟨⟨rfl, fun other hother => ?_⟩, ?_⟩
            · rw [← Option.some.inj hother]
              exact hid
            · simp [hid]
          · refine Or.inl ⟨Or.inr ⟨manifest, rfl, hid⟩, .idMismatch plugin.pluginId manifest.id, ?_⟩
            simp [hid]

/-- A file that stays with the content of the new plugin. -/
theorem failed_set_iff (plugin : Download) (content : Option (List UInt8))
    (state : State Location) (error : InstallError) {undamaged : List UInt8 → Prop}
    (h : ∀ old, undamaged old ↔ content = some old) :
    (Exit.failed error ≠ .installed →
        KeepsFiles world state.files (setFile world plugin content state).files) ↔
      (world.inDirectory (world.join plugin.artifact) →
        ∀ old, state.files (world.join plugin.artifact) = some old → undamaged old) := by
  rw [keeps_files_set_iff]
  simp only [h]
  exact ⟨fun hkeeps => hkeeps (fun heq => by cases heq), fun hkeeps _ => hkeeps⟩

/-- The new content of a file stays, unless the plugin is rejected and removed. -/
theorem check_file_leaves_iff (plugin : Download) (state : State Location) :
    ((checkFile world plugin (setFile world plugin (some plugin.wasmBytes) state)).1 ≠ .installed →
        KeepsFiles world state.files
          (checkFile world plugin (setFile world plugin (some plugin.wasmBytes) state)).2.files) ↔
      (world.inDirectory (world.join plugin.artifact) →
        ∀ old, state.files (world.join plugin.artifact) = some old →
          (world.readable = true ∧ Validates world plugin ∧ Registers world plugin state) ∨
            (old = plugin.wasmBytes ∧
              ¬(world.readable = true ∧ Rejects world plugin ∧ world.removable = true))) := by
  have hsame : ∀ old : List UInt8, old = plugin.wasmBytes ↔ some plugin.wasmBytes = some old :=
    fun old => ⟨fun h => congrArg some h.symm, fun h => (Option.some.inj h).symm⟩
  unfold checkFile
  cases world.readable with
  | false =>
      refine failed_set_iff world plugin _ state _ fun old => ?_
      rw [← hsame]
      simp
  | true =>
      cases hreport : validatePlugin world.platform plugin.wasmBytes with
      | none =>
          refine failed_set_iff world plugin _ state _ fun old => ?_
          rw [← hsame]
          simp [Validates, Rejects, hreport]
      | some report =>
          simp only [Bool.not_true, Bool.false_eq_true, if_false, true_and]
          rcases check_report_cases world plugin report
            (setFile world plugin (some plugin.wasmBytes) state) with
            ⟨hbad, error, hcheck⟩ | ⟨hgood, hcheck⟩
          · have hrejects : Rejects world plugin := ⟨report, hreport, hbad⟩
            have hnot : ¬Validates world plugin := fun h => h.not_rejects world hrejects
            rw [hcheck, removeFile]
            cases world.removable with
            | false =>
                refine failed_set_iff world plugin _ state _ fun old => ?_
                rw [← hsame]
                simp [hnot]
            | true =>
                have htwice : (setFile world plugin none
                    (setFile world plugin (some plugin.wasmBytes) state)).files =
                    (setFile world plugin none state).files := Function.update_idem _ _ _
                rw [if_pos rfl, htwice]
                refine failed_set_iff world plugin _ state _ fun old => ?_
                simp [hnot, hrejects]
          · have hvalidates : Validates world plugin := ⟨report, hreport, hgood⟩
            have hnot : ¬Rejects world plugin := hvalidates.not_rejects world
            have hplugins : Registers world plugin
                (setFile world plugin (some plugin.wasmBytes) state) ↔
                Registers world plugin state := Iff.rfl
            rw [hcheck, files_register, ne_eq, register_installed_iff, hplugins,
              keeps_files_set_iff]
            simp only [hvalidates, hnot, true_and, false_and, not_false_eq_true, and_true, hsame]
            by_cases hregisters : Registers world plugin state
            · simp [hregisters]
            · simp [hregisters]

/-- After the download the directory is left if the file in the plugin's place is undamaged. -/
theorem place_leaves_iff (plugin : Download) (state : State Location) :
    ((place world plugin state).1 ≠ .installed →
        KeepsFiles world state.files (place world plugin state).2.files) ↔
      (world.dirCreated = true → world.inDirectory (world.join plugin.artifact) →
        ∀ old, state.files (world.join plugin.artifact) = some old →
          Undamaged world plugin state old) := by
  unfold place
  cases world.dirCreated with
  | false =>
      exact iff_of_true (fun _ => keeps_files_refl world state.files) fun h => (by cases h)
  | true =>
      simp only [Bool.not_true, Bool.false_eq_true, if_false, true_imp_iff]
      unfold Undamaged
      cases world.written with
      | notOpened =>
          exact iff_of_true (fun _ => keeps_files_refl world state.files) fun _ _ _ => trivial
      | interrupted length =>
          exact failed_set_iff world plugin _ state _ fun old =>
            ⟨fun h => congrArg some h.symm, fun h => (Option.some.inj h).symm⟩
      | complete =>
          exact check_file_leaves_iff world plugin state

/-- An installation that fails, or finds the version installed, leaves the plugin directory as it
was exactly if the file that was in the plugin's place is undamaged. -/
theorem leaves_directory_iff (source : String) (state : State Location) :
    LeavesDirectory world source state ↔
      ∀ plugin, Downloaded world source plugin → world.dirCreated = true →
        world.inDirectory (world.join plugin.artifact) →
        ∀ old, state.files (world.join plugin.artifact) = some old →
          Undamaged world plugin state old := by
  unfold LeavesDirectory cmdInstall
  simp only [← download_eq_ok]
  cases download world source with
  | error error =>
      exact iff_of_true (fun _ => keeps_files_refl world state.files) fun _ h => (by cases h)
  | ok plugin =>
      rw [place_leaves_iff]
      exact ⟨fun h other hother => (Except.ok.inj hother) ▸ h, fun h => h plugin rfl⟩

end

/-- A release whose module is no module at all. -/
def brokenRelease : World String where
  platform := Invoke.samplePlatform
  get _ := .body [0]
  parseToml _ := some {
    plugin := some { id := some "sample", trustTier := none }
    wasmArtifact := some "sample.wasm" }
  trustedKeys := .notFound
  sha256Hex _ := ""
  join name := name
  inDirectory _ := True
  dirCreated := true
  written := .complete
  readable := true
  removable := true
  dbOpened := true
  tableCreated := true
  rowRead := true
  rowInserted := true
  now := 0

/-- The plugin directory with an older version of the plugin. -/
def olderInstalled : State String where
  files := fun name => if name = "sample.wasm" then some [0x00, 0x61, 0x73, 0x6d] else none
  plugins := [{
    id := "sample"
    version := "0.1.0"
    tier := "untrusted"
    wasmHash := ""
    installedAt := 0
    enabled := true }]

/-- The installation of that release fails, and the older version is gone. -/
theorem older_version_removed :
    (cmdInstall brokenRelease "corvid/sample@0.2.0" olderInstalled).1 =
        .failed .validationFailed ∧
      olderInstalled.files "sample.wasm" = some [0x00, 0x61, 0x73, 0x6d] ∧
      (cmdInstall brokenRelease "corvid/sample@0.2.0" olderInstalled).2.files "sample.wasm" =
        none ∧
      ¬LeavesDirectory brokenRelease "corvid/sample@0.2.0" olderInstalled := by
  have hexit : (cmdInstall brokenRelease "corvid/sample@0.2.0" olderInstalled).1 =
      .failed .validationFailed := rfl
  have hbefore : olderInstalled.files "sample.wasm" = some [0x00, 0x61, 0x73, 0x6d] := rfl
  have hafter : (cmdInstall brokenRelease "corvid/sample@0.2.0" olderInstalled).2.files
      "sample.wasm" = none := rfl
  refine ⟨hexit, hbefore, hafter, fun hleaves => ?_⟩
  have hkept := hleaves (by rw [hexit]; exact fun h => by cases h) "sample.wasm" trivial _ hbefore
  rw [hafter] at hkept
  cases hkept

end CorvidNano.Cli.Install
