import CorvidNano.Bridge.ToolInput
import CorvidNano.Host.ProjectFiles
import CorvidNano.Host.Registry

/-!
# Where plugins are loaded from

`validate_plugin_path` of the host's `main.rs`, with `handle_load`, `handle_reload` and
`handle_unload`, which read their parameters and the files before they call the registry, and the
part of `main` that loads plugins at the start.

`plugins_of_run` is the main result: a plugin that is loaded at a request comes from a file in the
plugins directory, and a trusted one from a file that is signed. At the start the host does not
look where a link in the directory leads to, but gives no tier above the lowest.
-/

namespace CorvidNano.Host.PluginFiles

open Bridge.ToolInput FileTree Loader ProjectFiles Registry Sdk Signature

/-! ## Files -/

/-- `Path::extension`. The last component is not a name if it is `..`. -/
def pathExtension (path : List Char) : Option (List Char) :=
  match ((components path).filter fun name => name ≠ [] ∧ name ≠ ['.']).getLast? with
  | none => none
  | some name => if name = ['.', '.'] then none else extension name

/-- The plugins directory as a path. -/
def pluginsPath (dataDir : String) : List Char := join dataDir.toList "plugins".toList

/-- `validate_plugin_path`. -/
def validatePluginPath (machine : Machine) (path dataDir : String) : Except String Location :=
  if path = "" then .error "path must not be empty"
  else if pathExtension path.toList ≠ some "wasm".toList then
    .error "plugin file must have a .wasm extension"
  else
    machine.resolveInside (pluginsPath dataDir) path.toList
      (fun e => "plugins directory '" ++ String.ofList (pluginsPath dataDir) ++
        "' is not accessible: " ++ e.display)
      (fun e => "invalid path '" ++ path ++ "': " ++ e.display)
      fun canonicalPluginsDir => "path '" ++ path ++ "' is outside the plugins directory '" ++
        String.ofList (display canonicalPluginsDir) ++ "'"

/-- The file of a signature, which is beside that of the plugin. -/
def signatureFile (machine : Machine) (path : List Char) : Option TextFile :=
  (machine.readFile (path ++ ".sig".toList)).toOption.map fun bytes =>
    (String.fromUTF8? ⟨bytes.toArray⟩).map String.toList

/-- The files that a plugin is loaded from. -/
def readPlugin (machine : Machine) (keys : TrustedKeys) (path : List Char) :
    Except IoError PluginFile :=
  match machine.readFile path with
  | .error e => .error e
  | .ok wasmBytes =>
      .ok { wasmBytes, sigData := signatureFile machine path, trustedKeys := keys }

/-! ## Requests -/

/-- The methods that change the registry. -/
inductive Method where
  | load
  | reload
  | unload

/-- A request, the machine as it is while the request is handled, and what is in the directory of
trusted keys. -/
structure Event where
  method : Method
  params : Json
  machine : Machine
  keys : TrustedKeys

/-- A parameter that has to be given. -/
def requiredParam (params : Json) (name : String) : Except String String :=
  match (params.get? name).bind asStr with
  | none => .error ("missing '" ++ name ++ "' parameter")
  | some text => .ok text

variable (dataDir : String)

/-- The files of a request. -/
def requestedFile (event : Event) (path : String) : Except String PluginFile :=
  match validatePluginPath event.machine path dataDir with
  | .error text => .error text
  | .ok canonicalPath =>
      (readPlugin event.machine event.keys (display canonicalPath)).mapError fun e =>
        "failed to read WASM: " ++ e.display

/-- The request that the parameters make. -/
def readRequest (event : Event) : Except String Request :=
  let tier := (event.params.get? "tier").bind asStr
  match event.method with
  | .load => do
      let path ← requiredParam event.params "path"
      .ok (.load (requestedFile dataDir event path) tier)
  | .reload => do
      let id ← requiredParam event.params "id"
      let path ← requiredParam event.params "path"
      .ok (.reload id (requestedFile dataDir event path) tier)
  | .unload => do
      let id ← requiredParam event.params "id"
      .ok (.unload id)

variable {platform : Platform}

/-- `handle_load`, `handle_reload` and `handle_unload`. -/
def serve (server : Server platform) (event : Event) :
    Server platform × Except RequestError Unit :=
  match readRequest dataDir event with
  | .error text => (server, .error (.file text))
  | .ok request => handle server request

/-! ## The start -/

/-- What the host finds at its start. -/
structure Start where
  /-- The names in the plugins directory, if it can be read. -/
  entries : Option (List Name)
  machine : Machine
  keys : TrustedKeys

/-- The path of an entry of the plugins directory. -/
def entryPath (name : Name) : List Char := join (pluginsPath dataDir) name

/-- `main` loads an entry of the plugins directory, if it can. -/
def autoLoad (start : Start) (server : Server platform) (name : Name) : Server platform :=
  if pathExtension (entryPath dataDir name) = some "wasm".toList then
    match readPlugin start.machine start.keys (entryPath dataDir name) with
    | .error _ => server
    | .ok file => (handle server (.load (.ok file) none)).1
  else server

/-- `Path::is_dir`. -/
def isDir (machine : Machine) (path : List Char) : Bool :=
  match machine.canonicalize path with
  | .error _ => false
  | .ok location =>
      match machine.files location with
      | some .dir => true
      | _ => false

/-- The server when it accepts the first connection. -/
def startUp (platform : Platform) (start : Start) : Server platform :=
  if isDir start.machine (pluginsPath dataDir) then
    (start.entries.getD []).foldl (autoLoad dataDir start) (Server.start platform)
  else Server.start platform

/-- The server after some requests. -/
def serverAfter (platform : Platform) (start : Start) (events : List Event) : Server platform :=
  events.foldl (fun server event => (serve dataDir server event).1) (startUp dataDir platform start)

/-! ## Where plugins come from -/

/-- A location in the plugins directory. -/
def InPlugins (machine : Machine) (location : Location) : Prop :=
  ∃ pluginsDir, machine.canonicalize (pluginsPath dataDir) = .ok pluginsDir ∧
    pluginsDir <+: location

/-- The content of a file in the plugins directory at the time of a request, with the signature
beside it and the keys of that time. -/
def FromRequest (event : Event) (input : LoadInput) : Prop :=
  ∃ location, InPlugins dataDir event.machine location ∧
    event.machine.files location = some (.file input.wasmBytes) ∧
    input.sigData = signatureFile event.machine (display location) ∧
    input.trustedKeys = event.keys

/-- The content of what an entry of the plugins directory led to at the start. -/
def FromStart (start : Start) (input : LoadInput) : Prop :=
  input.tier = .untrusted ∧ ∃ names name, start.entries = some names ∧ name ∈ names ∧
    start.machine.readFile (entryPath dataDir name) = .ok input.wasmBytes

/-- Where the host has loaded a plugin from. -/
def Provided (start : Start) (events : List Event) (input : LoadInput) : Prop :=
  (∃ event ∈ events, FromRequest dataDir event input) ∨ FromStart dataDir start input

/-- Each part of a slot is from a plugin that was loaded. -/
def PartsLoaded (server : Server platform) : Prop :=
  ∀ entry ∈ server.slots,
    (∃ call ∈ server.loads, call.loaded.module = entry.2.module) ∧
    ∃ call ∈ server.loads, call.loaded.manifest = entry.2.manifest ∧
      call.loaded.limits = entry.2.limits

variable {dataDir}

/-- A path is accepted exactly if it ends in `.wasm` and resolves into the plugins directory. -/
theorem validate_plugin_path_eq_ok {machine : Machine} {path : String} {location : Location} :
    validatePluginPath machine path dataDir = .ok location ↔
      path ≠ "" ∧ pathExtension path.toList = some "wasm".toList ∧
        machine.canonicalize path.toList = .ok location ∧ InPlugins dataDir machine location := by
  unfold validatePluginPath
  by_cases hempty : path = ""
  · rw [if_pos hempty]
    exact ⟨nofun, fun h => absurd hempty h.1⟩
  rw [if_neg hempty, and_iff_right hempty]
  by_cases hextension : pathExtension path.toList = some "wasm".toList
  · rw [if_neg (not_not.mpr hextension), and_iff_right hextension]
    exact resolve_inside_eq_ok
  · rw [if_pos hextension]
    exact ⟨nofun, fun h => absurd h.1 hextension⟩

/-- What a request reads is from a file in the plugins directory. -/
theorem from_request_of_requested {event : Event} {path : String} {file : PluginFile}
    {tier : Option String} (h : requestedFile dataDir event path = .ok file) :
    FromRequest dataDir event (file.input tier) := by
  unfold requestedFile at h
  cases hvalid : validatePluginPath event.machine path dataDir with
  | error text =>
      rw [hvalid] at h
      cases h
  | ok location =>
      obtain ⟨-, -, hlocation, hinside⟩ := validate_plugin_path_eq_ok.mp hvalid
      have hpath : event.machine.canonicalize (display location) = .ok location :=
        (reads_checked_iff event.machine location).mpr (canonical_of_canonicalize hlocation)
      rw [hvalid] at h
      dsimp only at h
      rw [Fallible.map_error_eq_ok] at h
      unfold readPlugin at h
      cases hread : event.machine.readFile (display location) with
      | error e =>
          rw [hread] at h
          cases h
      | ok wasmBytes =>
          rw [hread] at h
          obtain rfl := Except.ok.inj h
          unfold Machine.readFile at hread
          rw [hpath] at hread
          dsimp only at hread
          split at hread
          next content hfile =>
            obtain rfl := Except.ok.inj hread
            exact ⟨location, hinside, hfile, rfl, rfl⟩
          next => cases hread

/-! ## Requests and loads -/

/-- The files and the tier of a request. -/
def source : Request → Option (Except String PluginFile × Option String)
  | .load file tier => some (file, tier)
  | .reload _ file tier => some (file, tier)
  | .unload _ => none

/-- What a load does: nothing, or it is logged, and then the parts of each slot are those of an old
one or of the plugin that was loaded. -/
theorem load_then_parts {server : Server platform} {file : Except String PluginFile}
    {tier : Option String}
    {update : LoadedPlugin platform.engine → Except RequestError (Slots platform.engine)}
    (hparts : PartsLoaded server)
    (hupdate : ∀ loaded slots, update loaded = .ok slots → ∀ entry ∈ slots,
      (entry.2.module = loaded.module ∨
        ∃ old ∈ server.slots, entry.2.module = old.2.module) ∧
      ((entry.2.manifest = loaded.manifest ∧ entry.2.limits = loaded.limits) ∨
        ∃ old ∈ server.slots, entry.2.manifest = old.2.manifest ∧
          entry.2.limits = old.2.limits)) :
    PartsLoaded (loadThen server file tier update).1 := by
  rcases load_then_eq server file tier update with hsame | ⟨call, -, hloads, hslots⟩
  · rwa [hsame]
  · have hold (entry) (hmem : entry ∈ server.slots) :
        (∃ other ∈ call :: server.loads, other.loaded.module = entry.2.module) ∧
          ∃ other ∈ call :: server.loads, other.loaded.manifest = entry.2.manifest ∧
            other.loaded.limits = entry.2.limits := by
      obtain ⟨⟨first, hfirst, hmodule⟩, second, hsecond, hmanifest⟩ := hparts entry hmem
      exact ⟨⟨first, List.mem_cons_of_mem _ hfirst, hmodule⟩, second,
        List.mem_cons_of_mem _ hsecond, hmanifest⟩
    intro entry hmem
    rw [hloads]
    rcases hslots with hslots | hslots
    · rw [hslots] at hmem
      exact hold entry hmem
    · obtain ⟨hmodule, hmanifest⟩ := hupdate call.loaded _ hslots entry hmem
      constructor
      · rcases hmodule with hmodule | ⟨old, holdmem, hmodule⟩
        · exact ⟨call, List.mem_cons_self, hmodule.symm⟩
        · rw [hmodule]
          exact (hold old holdmem).1
      · rcases hmanifest with ⟨hmanifest, hlimits⟩ | ⟨old, holdmem, hmanifest, hlimits⟩
        · exact ⟨call, List.mem_cons_self, hmanifest.symm, hlimits.symm⟩
        · rw [hmanifest, hlimits]
          exact (hold old holdmem).2

/-- Every request keeps that the parts of the slots were loaded. -/
theorem PartsLoaded.handle {server : Server platform} (h : PartsLoaded server)
    (request : Request) : PartsLoaded (handle server request).1 := by
  cases request with
  | load file tier =>
      refine load_then_parts h fun loaded slots hregister entry hmem => ?_
      rw [register_eq_ok hregister] at hmem
      rcases List.mem_cons.mp hmem with rfl | hmem
      · exact ⟨.inl rfl, .inl ⟨rfl, rfl⟩⟩
      · exact ⟨.inr ⟨entry, hmem, rfl⟩, .inr ⟨entry, hmem, rfl, rfl⟩⟩
  | reload id file tier =>
      refine load_then_parts h fun loaded slots hreload entry hmem => ?_
      rcases mem_of_reload hreload hmem with hmem | ⟨slot, hold, rfl⟩
      · exact ⟨.inr ⟨entry, hmem, rfl⟩, .inr ⟨entry, hmem, rfl, rfl⟩⟩
      · -- A reload replaces the module only.
        exact ⟨.inl rfl, .inr ⟨(id, slot), hold, rfl, rfl⟩⟩
  | unload id =>
      unfold Registry.handle
      dsimp only
      cases hunload : unload server.slots id with
      | error error => exact h
      | ok slots => exact fun entry hmem => h entry (mem_of_unload hunload hmem)

/-- What is loaded are the files of the request. -/
theorem load_file_eq_ok {file : Except String PluginFile} {tier : Option String}
    {call : LoadCall platform} (h : loadFile platform file tier = .ok call) :
    ∃ content, file = .ok content ∧ call.input = content.input tier := by
  cases file with
  | error text => cases h
  | ok content =>
      refine ⟨content, rfl, ?_⟩
      unfold loadFile at h
      dsimp only at h
      split at h
      next => cases h
      next =>
        obtain rfl := Except.ok.inj h
        rfl

/-- What a request adds to the loads is loaded from its files. -/
theorem loads_of_handle {server : Server platform} {request : Request} {call : LoadCall platform}
    (hmem : call ∈ (handle server request).1.loads) :
    call ∈ server.loads ∨
      ∃ file tier, source request = some (.ok file, tier) ∧ call.input = file.input tier := by
  have hload {file : Except String PluginFile} {tier : Option String}
      {update : LoadedPlugin platform.engine → Except RequestError (Slots platform.engine)}
      (hmem : call ∈ (loadThen server file tier update).1.loads) :
      call ∈ server.loads ∨
        ∃ content, file = .ok content ∧ call.input = content.input tier := by
    rcases load_then_eq server file tier update with hsame | ⟨other, hother, hloads, -⟩
    · rw [hsame] at hmem
      exact .inl hmem
    · rw [hloads] at hmem
      rcases List.mem_cons.mp hmem with rfl | hmem
      · exact .inr (load_file_eq_ok hother)
      · exact .inl hmem
  cases request with
  | load file tier =>
      rcases hload hmem with hold | ⟨content, rfl, hinput⟩
      · exact .inl hold
      · exact .inr ⟨content, tier, rfl, hinput⟩
  | reload id file tier =>
      rcases hload hmem with hold | ⟨content, rfl, hinput⟩
      · exact .inl hold
      · exact .inr ⟨content, tier, rfl, hinput⟩
  | unload id =>
      unfold handle at hmem
      dsimp only at hmem
      cases hunload : unload server.slots id with
      | error error =>
          rw [hunload] at hmem
          exact .inl hmem
      | ok slots =>
          rw [hunload] at hmem
          exact .inl hmem

/-! ## Runs -/

/-- The parts of the slots were loaded, and what was loaded was provided. -/
structure Traced (dataDir : String) (start : Start) (events : List Event)
    (server : Server platform) : Prop where
  parts : PartsLoaded server
  provided : ∀ call ∈ server.loads, Provided dataDir start events call.input

/-- A request for files that are provided keeps that everything can be traced. -/
theorem Traced.handle {start : Start} {events : List Event} {server : Server platform}
    (h : Traced dataDir start events server) {request : Request}
    (hrequest : ∀ file tier, source request = some (.ok file, tier) →
      Provided dataDir start events (file.input tier)) :
    Traced dataDir start events (handle server request).1 where
  parts := h.parts.handle request
  provided call hmem := by
    rcases loads_of_handle hmem with hold | ⟨file, tier, hsource, hinput⟩
    · exact h.provided call hold
    · rw [hinput]
      exact hrequest file tier hsource

theorem traced_start (platform : Platform) (start : Start) (events : List Event) :
    Traced dataDir start events (Server.start platform) where
  parts _ hmem := absurd hmem List.not_mem_nil
  provided _ hmem := absurd hmem List.not_mem_nil

theorem Traced.auto_load {start : Start} {events : List Event} {server : Server platform}
    (h : Traced dataDir start events server) {names : List Name} {name : Name}
    (hentries : start.entries = some names) (hname : name ∈ names) :
    Traced dataDir start events (autoLoad dataDir start server name) := by
  unfold autoLoad
  split
  · unfold readPlugin
    cases hread : start.machine.readFile (entryPath dataDir name) with
    | error e => exact h
    | ok wasmBytes =>
        refine h.handle fun file tier hsource => .inr ⟨?_, names, name, hentries, hname, ?_⟩
        · obtain ⟨-, rfl⟩ := Prod.mk.inj (Option.some.inj hsource)
          rfl
        · obtain ⟨hfile, -⟩ := Prod.mk.inj (Option.some.inj hsource)
          obtain rfl := Except.ok.inj hfile
          exact hread
  · exact h

theorem traced_start_up (platform : Platform) (start : Start) (events : List Event) :
    Traced dataDir start events (startUp dataDir platform start) := by
  unfold startUp
  split
  · cases hentries : start.entries with
    | none => exact traced_start platform start events
    | some names =>
        have hall (rest : List Name) (hrest : ∀ name ∈ rest, name ∈ names)
            {server : Server platform} (h : Traced dataDir start events server) :
            Traced dataDir start events (rest.foldl (autoLoad dataDir start) server) := by
          induction rest generalizing server with
          | nil => exact h
          | cons name rest ih =>
              obtain ⟨hname, hrest⟩ := List.forall_mem_cons.mp hrest
              exact ih hrest (h.auto_load hentries hname)
        exact hall names (fun _ hmem => hmem) (traced_start platform start events)
  · exact traced_start platform start events

/-- The files of a request are at the path that its parameters name. -/
theorem source_of_read_request {event : Event} {request : Request}
    {file : Except String PluginFile} {tier : Option String}
    (h : readRequest dataDir event = .ok request) (hsource : source request = some (file, tier)) :
    ∃ path, requestedFile dataDir event path = file := by
  unfold readRequest at h
  cases hmethod : event.method with
  | load =>
      rw [hmethod] at h
      obtain ⟨path, -, h⟩ := Fallible.bind_eq_ok.mp h
      obtain rfl := Except.ok.inj h
      exact ⟨path, (Prod.mk.inj (Option.some.inj hsource)).1⟩
  | reload =>
      rw [hmethod] at h
      obtain ⟨id, -, h⟩ := Fallible.bind_eq_ok.mp h
      obtain ⟨path, -, h⟩ := Fallible.bind_eq_ok.mp h
      obtain rfl := Except.ok.inj h
      exact ⟨path, (Prod.mk.inj (Option.some.inj hsource)).1⟩
  | unload =>
      rw [hmethod] at h
      obtain ⟨id, -, h⟩ := Fallible.bind_eq_ok.mp h
      obtain rfl := Except.ok.inj h
      cases hsource

theorem Traced.serve {start : Start} {events : List Event} {server : Server platform}
    (h : Traced dataDir start events server) {event : Event} (hevent : event ∈ events) :
    Traced dataDir start events (serve dataDir server event).1 := by
  unfold PluginFiles.serve
  cases hrequest : readRequest dataDir event with
  | error text => exact h
  | ok request =>
      refine h.handle fun file tier hsource => .inl ⟨event, hevent, ?_⟩
      obtain ⟨path, hfile⟩ := source_of_read_request hrequest hsource
      exact from_request_of_requested hfile

theorem traced_run (platform : Platform) (start : Start) (events : List Event) :
    Traced dataDir start events (serverAfter dataDir platform start events) := by
  have hall (rest : List Event) (hrest : ∀ event ∈ rest, event ∈ events)
      {server : Server platform} (h : Traced dataDir start events server) :
      Traced dataDir start events
        (rest.foldl (fun server event => (PluginFiles.serve dataDir server event).1) server) := by
    induction rest generalizing server with
    | nil => exact h
    | cons event rest ih =>
        obtain ⟨hevent, hrest⟩ := List.forall_mem_cons.mp hrest
        exact ih hrest (h.serve hevent)
  exact hall events (fun _ hmem => hmem) (traced_start_up platform start events)

variable (dataDir)

/-- In every run of the host, with the files as they are at each request, the module of every plugin
was compiled from a file that was in the plugins directory at a request, or from what an entry of it
led to at the start. The manifest of every trusted plugin is that of a file in the plugins
directory, and the signature beside the file has passed the check of the trusted tier. -/
theorem plugins_of_run (platform : Platform) (start : Start) (events : List Event) (id : String)
    (slot : Slot platform.engine)
    (h : (id, slot) ∈ (serverAfter dataDir platform start events).slots) :
    (∃ input, platform.engine.compile input.wasmBytes = some slot.module ∧
      Provided dataDir start events input) ∧
    (slot.limits = .forTier .trusted → ∃ event ∈ events, ∃ input module,
      FromRequest dataDir event input ∧
        platform.engine.compile input.wasmBytes = some module ∧
        extractManifest platform module slot.limits = .ok slot.manifest ∧
        verifySignature platform.ed25519 input.wasmBytes input.sigData event.keys .trusted =
          .ok ()) := by
  have htraced : Traced dataDir start events (serverAfter dataDir platform start events) :=
    traced_run platform start events
  obtain ⟨⟨first, hfirst, hmodule⟩, second, hsecond, hmanifest, hlimits⟩ :=
    htraced.parts _ h
  constructor
  · obtain ⟨hcompile, -⟩ := load_plugin_eq_ok.mp first.succeeded
    exact ⟨first.input, hcompile.trans (congrArg some hmodule), htraced.provided first hfirst⟩
  · intro htrusted
    have hall : second.loaded.limits = .forTier .trusted := hlimits.trans htrusted
    have hverified := second.verified_of_trusted hall
    obtain ⟨hcompile, -, -, -, hextract, -, htier⟩ := load_plugin_eq_ok.mp second.succeeded
    dsimp only at hmanifest hlimits
    rw [hmanifest, hlimits] at hextract
    rcases htraced.provided second hsecond with ⟨event, hevent, hfrom⟩ | ⟨huntrusted, -⟩
    · refine ⟨event, hevent, second.input, second.loaded.module, hfrom, hcompile, hextract, ?_⟩
      obtain ⟨location, -, -, -, hkeys⟩ := hfrom
      rwa [hkeys] at hverified
    · rw [huntrusted, hall] at htier
      exact absurd htier (by decide)

/-- A machine with two sample plugins: one that asks for nothing, with its signature, and one that
asks for the network. -/
def pluginMachine : Machine where
  files location :=
    if location = [] ∨ location = ["data".toList] ∨
        location = ["data".toList, "plugins".toList] then some .dir
    else if location = ["data".toList, "plugins".toList, "sample.wasm".toList] then
      some (.file plainFile.wasmBytes)
    else if location = ["data".toList, "plugins".toList, "sample.wasm.sig".toList] then
      some (.file (Utf8.bytes (String.ofList ((plainFile.sigData.getD none).getD []))))
    else if location = ["data".toList, "plugins".toList, "network.wasm".toList] then
      some (.file Invoke.networkLoad.input.wasmBytes)
    else none
  links := 40
  workingDir := []
  root_dir := rfl
  working_dir_canonical := .root

/-- A start at which the directory has the signature and the plugin without one. -/
def networkStart : Start where
  entries := some ["sample.wasm.sig".toList, "network.wasm".toList]
  machine := pluginMachine
  keys := plainFile.trustedKeys

/-- A request to unload what is loaded at that start. -/
def unloadSample : Event where
  method := .unload
  params := .object [("id", .string "sample")]
  machine := pluginMachine
  keys := plainFile.trustedKeys

/-- A request for the signed plugin. -/
def loadSample : Event where
  method := .load
  params := .object [("path", .string "/data/plugins/sample.wasm"), ("tier", .string "trusted")]
  machine := pluginMachine
  keys := plainFile.trustedKeys

theorem requested_sample :
    requestedFile "/data" loadSample "/data/plugins/sample.wasm" = .ok plainFile := by
  have hvalid : validatePluginPath pluginMachine "/data/plugins/sample.wasm" "/data" =
      .ok ["data".toList, "plugins".toList, "sample.wasm".toList] := by
    rfl
  have hread : pluginMachine.readFile (display ["data".toList, "plugins".toList,
      "sample.wasm".toList]) = .ok plainFile.wasmBytes := by
    rfl
  have hsignature : pluginMachine.readFile (display ["data".toList, "plugins".toList,
      "sample.wasm".toList] ++ ".sig".toList) =
        .ok (Utf8.bytes (String.ofList ((plainFile.sigData.getD none).getD []))) := by
    rfl
  unfold requestedFile
  rw [loadSample, hvalid]
  dsimp only
  unfold readPlugin signatureFile
  rw [hread, hsignature]
  dsimp only [Except.toOption, Option.map_some]
  rw [Utf8.from_utf8_bytes, Option.map_some, String.toList_ofList]
  rfl

/-- The start loads the plugin that has no signature. -/
theorem start_up_network :
    startUp "/data" Invoke.samplePlatform networkStart =
      { slots := [("sample", .new Invoke.networkLoad.loaded)]
        loads := [{ Invoke.networkLoad with
          input := { Invoke.networkLoad.input with
            trustedKeys := plainFile.trustedKeys } }] } := by
  rfl

/-- The requests replace it by the signed one. -/
theorem slots_after_requests :
    (serverAfter "/data" Invoke.samplePlatform networkStart [unloadSample, loadSample]).slots =
      plainServer.slots := by
  have hunload : readRequest "/data" unloadSample = .ok (.unload "sample") := rfl
  have hload : readRequest "/data" loadSample =
      .ok (.load (requestedFile "/data" loadSample "/data/plugins/sample.wasm")
        (some "trusted")) := rfl
  rw [serverAfter, start_up_network, List.foldl_cons, List.foldl_cons, List.foldl_nil]
  unfold serve
  rw [hunload, hload, requested_sample]
  rfl

/-- `plugins_of_run` for the plugin that is loaded at the start, and for the signed plugin that
requests load in its place. -/
theorem sample_plugins_of_run :
    (∃ input, Invoke.samplePlatform.engine.compile input.wasmBytes = some .network ∧
      FromStart "/data" networkStart input) ∧
    (∃ input, Invoke.samplePlatform.engine.compile input.wasmBytes = some .plain ∧
      Provided "/data" networkStart [unloadSample, loadSample] input) ∧
    ∃ event ∈ [unloadSample, loadSample], ∃ input module, FromRequest "/data" event input ∧
      Invoke.samplePlatform.engine.compile input.wasmBytes = some module ∧
      extractManifest Invoke.samplePlatform module (.forTier .trusted) =
        .ok plainLoad.loaded.manifest ∧
      verifySignature Invoke.samplePlatform.ed25519 input.wasmBytes input.sigData
        event.keys .trusted = .ok () := by
  have hstarted : ("sample", Slot.new Invoke.networkLoad.loaded) ∈
      (serverAfter "/data" Invoke.samplePlatform networkStart []).slots := by
    rw [serverAfter, start_up_network]
    exact List.mem_singleton_self _
  have hrequested : ("sample", Slot.new plainLoad.loaded) ∈
      (serverAfter "/data" Invoke.samplePlatform networkStart
        [unloadSample, loadSample]).slots := by
    rw [slots_after_requests]
    exact List.mem_singleton_self _
  obtain ⟨started, hcompile, hprovided⟩ :=
    (plugins_of_run "/data" Invoke.samplePlatform networkStart [] "sample" _ hstarted).1
  obtain ⟨hmodule, htrusted⟩ := plugins_of_run "/data" Invoke.samplePlatform networkStart
    [unloadSample, loadSample] "sample" _ hrequested
  refine ⟨⟨started, hcompile, ?_⟩, hmodule, htrusted rfl⟩
  rcases hprovided with ⟨event, hevent, -⟩ | hstart
  · exact absurd hevent List.not_mem_nil
  · exact hstart

end CorvidNano.Host.PluginFiles
