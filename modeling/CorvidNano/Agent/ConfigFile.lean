import CorvidNano.Agent.Configuration
import CorvidNano.Agent.KeystoreFile
import CorvidNano.Library.Digits

/-!
# Setting the configuration

`NanoConfig::load` and `save` in `config.rs`, and `can config set` in `main.rs`, which loads
`nano.toml`, sets one value and writes the file again. The crate `toml` is a parameter.

`config_of_run` is the main result: after any such commands the file has for each key the value
that was accepted last, and `can run` uses it, if it reads the key from the file at all.
-/

namespace CorvidNano.Agent.ConfigFile

open Agent.Configuration KeystoreFile

deriving instance DecidableEq for Key

/-- The crate `toml`, with the tables of the plugins as it reads and writes them. An error is the
text that is shown. -/
structure Toml (Plugins : Type) where
  fromStr : String → Except String (NanoToml × Plugins)
  toStringPretty : NanoConfig × Plugins → Except String String
  noPlugins : Plugins

/-- What is written of a configuration: every value that it has. -/
def written (config : NanoConfig) : NanoToml where
  agentName := some config.agent.name
  agentNetwork := config.agent.network
  algodUrl := config.network.algodUrl
  algodToken := config.network.algodToken
  indexerUrl := config.network.indexerUrl
  indexerToken := config.network.indexerToken
  hubUrl := some config.hub.url
  hubDisabled := some config.hub.disabled
  pollInterval := some config.runtime.pollInterval
  noPlugins := some config.runtime.noPlugins
  healthPort := config.runtime.healthPort
  loggingFormat := config.logging.format
  loggingLevel := config.logging.level

variable {Plugins : Type} (toml : Toml Plugins)

/-- A text is read back to what was written. -/
structure Toml.Faithful : Prop where
  from_to_string : ∀ {config plugins text}, toml.toStringPretty (config, plugins) = .ok text →
    toml.fromStr text = .ok (written config, plugins)

/-- The path of `nano.toml`. -/
def configPath (dataDir : String) : Path where
  parent := dataDir
  stem := "nano"
  extension := some "toml"

/-- `NanoConfig::default`. -/
def defaultConfig : NanoConfig where
  agent := { name := "can", network := none }
  network := { algodUrl := none, algodToken := none, indexerUrl := none, indexerToken := none }
  hub := { url := "http://localhost:3578", disabled := false }
  runtime := { pollInterval := 5, noPlugins := false, healthPort := none }
  logging := { format := none, level := none }

/-- `NanoConfig::for_new_agent`. -/
def forNewAgent (name network : String) : NanoConfig :=
  { defaultConfig with agent := { name, network := some network } }

/-- `NanoConfig::load`. -/
def load (readError : Option String) (files : Files) (dataDir : String) :
    Except Failure (NanoConfig × Plugins) :=
  match files (configPath dataDir) with
  | none => .ok (defaultConfig, toml.noPlugins)
  | some file =>
      match readToString readError (some file) with
      | .error failure => .error failure
      | .ok content =>
          match toml.fromStr content with
          | .error text => .error (.err text)
          | .ok (values, plugins) => .ok (.load values, plugins)

/-- `std::fs::write`. -/
def write (fs : FileSystem) (files : Files) (path : Path) (content : String) :
    Except Failure Unit × Files :=
  match fs.writeError with
  | some (error, left) => (.error (.err error), Function.update files path left)
  | none =>
      (.ok (), Function.update files path
        (some ⟨Utf8.bytes content, ((files path).map File.mode).getD fs.createMode⟩))

/-- `NanoConfig::save`. -/
def save (fs : FileSystem) (files : Files) (dataDir : String) (contents : NanoConfig × Plugins) :
    Except Failure Unit × Files :=
  match toml.toStringPretty contents with
  | .error text => (.error (.err text), files)
  | .ok content => write fs files (configPath dataDir) content

/-! ## `can config set` -/

/-- `parse::<u64>` and `parse::<u16>`: decimal digits, after at most one plus sign. -/
def parseUnsigned (bound : Nat) (text : String) : Option Nat :=
  let digits := match text.toList with
    | '+' :: rest => rest
    | other => other
  if digits = [] then none else (Digits.number? 10 digits).filter (· < bound)

/-- `parse::<bool>`. -/
def parseBool : String → Option Bool
  | "true" => some true
  | "false" => some false
  | _ => none

/-- The boolean of a value, or what is wrong with it. -/
def requireBool (value : String) : Except String Bool :=
  match parseBool value with
  | some flag => .ok flag
  | none => .error ("Invalid boolean: " ++ value ++ ". Use true or false.")

/-- The part of `cmd_config` that sets a value. -/
def setValue (cfg : NanoConfig) (key value : String) : Except String NanoConfig :=
  match key with
  | "agent.name" => .ok { cfg with agent.name := value }
  | "agent.network" =>
      if value = "localnet" ∨ value = "testnet" ∨ value = "mainnet" then
        .ok { cfg with agent.network := some value }
      else .error ("Invalid network: " ++ value ++ ". Use localnet, testnet, or mainnet.")
  | "network.algod_url" => .ok { cfg with network.algodUrl := some value }
  | "network.algod_token" => .ok { cfg with network.algodToken := some value }
  | "network.indexer_url" => .ok { cfg with network.indexerUrl := some value }
  | "network.indexer_token" => .ok { cfg with network.indexerToken := some value }
  | "hub.url" => .ok { cfg with hub.url := value }
  | "hub.disabled" =>
      match requireBool value with
      | .error text => .error text
      | .ok flag => .ok { cfg with hub.disabled := flag }
  | "runtime.poll_interval" =>
      match parseUnsigned (2 ^ 64) value with
      | none => .error ("Invalid number: " ++ value)
      | some number => .ok { cfg with runtime.pollInterval := number }
  | "runtime.no_plugins" =>
      match requireBool value with
      | .error text => .error text
      | .ok flag => .ok { cfg with runtime.noPlugins := flag }
  | "runtime.health_port" =>
      if value = "none" ∨ value = "null" then .ok { cfg with runtime.healthPort := none }
      else
        match parseUnsigned (2 ^ 16) value with
        | none => .error ("Invalid port number: " ++ value)
        | some number => .ok { cfg with runtime.healthPort := some number }
  | "logging.format" =>
      if value = "text" ∨ value = "json" then .ok { cfg with logging.format := some value }
      else .error ("Invalid log format: " ++ value ++ ". Use text or json.")
  | "logging.level" => .ok { cfg with logging.level := some value }
  | _ =>
      .error ("Unknown config key: " ++ key ++ ". Valid keys: agent.name, agent.network, " ++
        "network.algod_url, network.algod_token, network.indexer_url, " ++
        "network.indexer_token, hub.url, hub.disabled, runtime.poll_interval, " ++
        "runtime.no_plugins, runtime.health_port, logging.format, logging.level")

/-- A call of `can config set`, with what the file system does in it. -/
structure SetCommand where
  key : String
  value : String
  readError : Option String
  createDirError : Option String
  fs : FileSystem

/-- `can config set`: `main` loads the file, then `cmd_config`. -/
def cmdConfigSet (dataDir : String) (files : Files) (command : SetCommand) :
    Except Failure Unit × Files :=
  match load toml command.readError files dataDir with
  | .error failure => (.error failure, files)
  | .ok (cfg, plugins) =>
      match setValue cfg command.key command.value with
      | .error text => (.error (.err text), files)
      | .ok cfg =>
          match command.createDirError with
          | some error => (.error (.err error), files)
          | none => save toml command.fs files dataDir (cfg, plugins)

/-! ## What is set -/

/-- The value that a configuration has for a key. -/
def configValue (config : NanoConfig) : Key → Option Value := (written config).value

/-- The key and the value that the arguments of a command mean, if they are accepted. -/
def readSetting (key value : String) : Option (Key × Option Value) :=
  match key with
  | "agent.name" => some (.agentName, some (.text value))
  | "agent.network" =>
      if value = "localnet" ∨ value = "testnet" ∨ value = "mainnet" then
        some (.agentNetwork, some (.text value))
      else none
  | "network.algod_url" => some (.algodUrl, some (.text value))
  | "network.algod_token" => some (.algodToken, some (.text value))
  | "network.indexer_url" => some (.indexerUrl, some (.text value))
  | "network.indexer_token" => some (.indexerToken, some (.text value))
  | "hub.url" => some (.hubUrl, some (.text value))
  | "hub.disabled" => (parseBool value).map fun flag => (.hubDisabled, some (.flag flag))
  | "runtime.poll_interval" =>
      (parseUnsigned (2 ^ 64) value).map fun number => (.pollInterval, some (.number number))
  | "runtime.no_plugins" => (parseBool value).map fun flag => (.noPlugins, some (.flag flag))
  | "runtime.health_port" =>
      if value = "none" ∨ value = "null" then some (.healthPort, none)
      else (parseUnsigned (2 ^ 16) value).map fun number => (.healthPort, some (.number number))
  | "logging.format" =>
      if value = "text" ∨ value = "json" then some (.loggingFormat, some (.text value)) else none
  | "logging.level" => some (.loggingLevel, some (.text value))
  | _ => none

/-- What a command does to a configuration that has been loaded: it sets what its arguments mean,
and it is refused if they mean nothing. -/
def Sets (cfg : NanoConfig) (result : Except String NanoConfig) :
    Option (Key × Option Value) → Prop
  | some (key, value) =>
      ∃ next, result = .ok next ∧ configValue next = Function.update (configValue cfg) key value
  | none => ∃ text, result = .error text

theorem sets_ok {cfg next : NanoConfig} {key : Key} {value : Option Value}
    (h : ∀ other, configValue next other = if other = key then value else configValue cfg other) :
    Sets cfg (.ok next) (some (key, value)) := by
  refine ⟨next, rfl, funext fun other => ?_⟩
  rw [h, Function.update_apply]

theorem set_value_sets (cfg : NanoConfig) (key value : String) :
    Sets cfg (setValue cfg key value) (readSetting key value) := by
  unfold readSetting setValue
  split
  next => exact sets_ok fun other => by cases other <;> rfl
  next =>
    dsimp only
    split
    · exact sets_ok fun other => by cases other <;> rfl
    · exact ⟨_, rfl⟩
  next => exact sets_ok fun other => by cases other <;> rfl
  next => exact sets_ok fun other => by cases other <;> rfl
  next => exact sets_ok fun other => by cases other <;> rfl
  next => exact sets_ok fun other => by cases other <;> rfl
  next => exact sets_ok fun other => by cases other <;> rfl
  next =>
    unfold requireBool
    cases parseBool value with
    | none => exact ⟨_, rfl⟩
    | some flag => exact sets_ok fun other => by cases other <;> rfl
  next =>
    cases parseUnsigned (2 ^ 64) value with
    | none => exact ⟨_, rfl⟩
    | some number => exact sets_ok fun other => by cases other <;> rfl
  next =>
    unfold requireBool
    cases parseBool value with
    | none => exact ⟨_, rfl⟩
    | some flag => exact sets_ok fun other => by cases other <;> rfl
  next =>
    dsimp only
    split
    · exact sets_ok fun other => by cases other <;> rfl
    · cases parseUnsigned (2 ^ 16) value with
      | none => exact ⟨_, rfl⟩
      | some number => exact sets_ok fun other => by cases other <;> rfl
  next =>
    dsimp only
    split
    next hformat =>
      refine sets_ok fun other => ?_
      cases other with
      | loggingFormat => exact if_pos hformat
      | _ => rfl
    next => exact ⟨_, rfl⟩
  next => exact sets_ok fun other => by cases other <;> rfl
  next => exact ⟨_, rfl⟩

/-! ## Loading what was saved -/

variable {toml}

@[simp] theorem load_written (config : NanoConfig) : NanoConfig.load (written config) = config :=
  rfl

/-- A load that succeeds succeeds without the faults of the file system. -/
theorem load_eq_of_ok {readError : Option String} {files : Files} {dataDir : String}
    {contents : NanoConfig × Plugins} (h : load toml readError files dataDir = .ok contents) :
    load toml none files dataDir = .ok contents := by
  unfold load at h ⊢
  cases hfile : files (configPath dataDir) with
  | none =>
      rw [hfile] at h
      exact h
  | some file =>
      rw [hfile] at h
      cases readError with
      | none => exact h
      | some error => cases h

/-- What was saved is loaded. -/
theorem load_save (hfaithful : toml.Faithful) {fs : FileSystem} {files : Files} {dataDir : String}
    {config : NanoConfig} {plugins : Plugins}
    (h : (save toml fs files dataDir (config, plugins)).1 = .ok ()) :
    load toml none (save toml fs files dataDir (config, plugins)).2 dataDir =
      .ok (config, plugins) := by
  unfold save at h ⊢
  cases hcontent : toml.toStringPretty (config, plugins) with
  | error text =>
      rw [hcontent] at h
      cases h
  | ok content =>
      rw [hcontent] at h
      dsimp only at h ⊢
      unfold write at h ⊢
      cases hwrite : fs.writeError with
      | some failed =>
          rw [hwrite] at h
          cases h
      | none =>
          dsimp only
          rw [load, Function.update_self]
          simp only [readToString, Utf8.from_utf8_bytes, hfaithful.from_to_string hcontent,
            load_written]

/-- A save that fails leaves the files as they were, unless a write fails. -/
theorem save_error {fs : FileSystem} {files : Files} {dataDir : String}
    {contents : NanoConfig × Plugins} {failure : Failure} (hwrite : fs.writeError = none)
    (h : (save toml fs files dataDir contents).1 = .error failure) :
    (save toml fs files dataDir contents).2 = files := by
  unfold save at h ⊢
  cases hcontent : toml.toStringPretty contents with
  | error text => rfl
  | ok content =>
      rw [hcontent] at h
      unfold write at h
      rw [hwrite] at h
      cases h

/-! ## Runs -/

/-- A command that does not fail in a write leaves the files as they were and returns an error, or
sets what its arguments mean. -/
theorem config_set_cases (hfaithful : toml.Faithful) {files : Files} {dataDir : String}
    {cfg : NanoConfig} {plugins : Plugins}
    (hloads : load toml none files dataDir = .ok (cfg, plugins)) {command : SetCommand}
    (hwrite : command.fs.writeError = none) :
    (∃ failure, cmdConfigSet toml dataDir files command = (.error failure, files)) ∨
      ∃ key value next, readSetting command.key command.value = some (key, value) ∧
        configValue next = Function.update (configValue cfg) key value ∧
        (cmdConfigSet toml dataDir files command).1 = .ok () ∧
        load toml none (cmdConfigSet toml dataDir files command).2 dataDir =
          .ok (next, plugins) := by
  unfold cmdConfigSet
  cases hload : load toml command.readError files dataDir with
  | error failure => exact .inl ⟨failure, rfl⟩
  | ok contents =>
      obtain rfl : (cfg, plugins) = contents :=
        Except.ok.inj (hloads.symm.trans (load_eq_of_ok hload))
      dsimp only
      have hsets := set_value_sets cfg command.key command.value
      cases hsetting : readSetting command.key command.value with
      | none =>
          rw [hsetting] at hsets
          obtain ⟨text, htext⟩ := hsets
          rw [htext]
          exact .inl ⟨.err text, rfl⟩
      | some setting =>
          rw [hsetting] at hsets
          obtain ⟨key, value⟩ := setting
          obtain ⟨next, hnext, hvalues⟩ := hsets
          rw [hnext]
          dsimp only
          cases command.createDirError with
          | some error => exact .inl ⟨.err error, rfl⟩
          | none =>
              dsimp only
              cases hsave : (save toml command.fs files dataDir (next, plugins)).1 with
              | error failure =>
                  exact .inl ⟨failure, Prod.ext hsave (save_error hwrite hsave)⟩
              | ok done =>
                  exact .inr ⟨key, value, next, rfl, hvalues, rfl, load_save hfaithful hsave⟩

variable (toml)

/-- The files after a command. -/
def step (dataDir : String) (files : Files) (command : SetCommand) : Files :=
  (cmdConfigSet toml dataDir files command).2

/-- What the commands of a run set, in order. -/
def accepted (dataDir : String) : Files → List SetCommand → List (Key × Option Value)
  | _, [] => []
  | files, command :: rest =>
      match (cmdConfigSet toml dataDir files command).1 with
      | .ok () =>
          (readSetting command.key command.value).toList ++
            accepted dataDir (step toml dataDir files command) rest
      | .error _ => accepted dataDir (step toml dataDir files command) rest

/-- The values after some settings: the last one for a key counts. -/
def valuesAfter (values : Key → Option Value) (settings : List (Key × Option Value)) :
    Key → Option Value :=
  settings.foldl (fun values setting => Function.update values setting.1 setting.2) values

variable {toml}

theorem loads_run (hfaithful : toml.Faithful) {files : Files} {dataDir : String}
    {cfg : NanoConfig} {plugins : Plugins}
    (hloads : load toml none files dataDir = .ok (cfg, plugins)) {commands : List SetCommand}
    (hwrites : ∀ command ∈ commands, command.fs.writeError = none) :
    ∃ final, load toml none (commands.foldl (step toml dataDir) files) dataDir =
        .ok (final, plugins) ∧
      configValue final = valuesAfter (configValue cfg) (accepted toml dataDir files commands) := by
  induction commands generalizing files cfg with
  | nil => exact ⟨cfg, hloads, rfl⟩
  | cons command rest ih =>
      obtain ⟨hwrite, hrest⟩ := List.forall_mem_cons.mp hwrites
      rw [List.foldl_cons, accepted]
      obtain ⟨failure, hsame⟩ | ⟨key, value, next, hsetting, hvalues, hok, hnext⟩ :=
        config_set_cases hfaithful hloads hwrite
      · have hstep : step toml dataDir files command = files := by rw [step, hsame]
        rw [hsame, hstep]
        exact ih hloads hrest
      · rw [hok, hsetting]
        obtain ⟨final, hfinal, hafter⟩ := ih hnext hrest
        refine ⟨final, hfinal, ?_⟩
        rw [hafter, hvalues]
        rfl

/-! ## What `can run` uses -/

/-- The keys that `can run` reads from the file. -/
def isRead : Key → Bool
  | .agentName | .agentNetwork | .hubUrl | .pollInterval => false
  | _ => true

theorem switch_eq_none {given : Bool} (h : switch given = none) : given = false := by
  cases given with
  | false => rfl
  | true => cases h

/-- `can run` uses the value of the file for a key that is given nowhere else, if it reads the key
from the file. -/
theorem settings_value (line : CommandLine) (env : Environment) (config : NanoConfig) {key : Key}
    (hline : line.value key = none) (henv : env.value key = none) :
    (settings (.parse line env) config env.rustLog).value key =
      if isRead key then
        (configValue config key).getD (defaultValue (Cli.parse line env).network key)
      else defaultValue .localnet key := by
  cases key with
  | agentName =>
      have hname : line.name = none := Option.map_eq_none_iff.mp hline
      simp [settings, Settings.value, Cli.parse, hname, isRead, defaultValue]
  | agentNetwork =>
      have hnetwork : line.network = none := Option.map_eq_none_iff.mp hline
      have hvariable : env.canNetwork = none := Option.map_eq_none_iff.mp henv
      simp [settings, Settings.value, Cli.parse, hnetwork, hvariable, isRead, defaultValue,
        Network.display]
  | algodUrl =>
      have hgiven : line.algodUrl = none := Option.map_eq_none_iff.mp hline
      have hvariable : env.canAlgodUrl = none := Option.map_eq_none_iff.mp henv
      simp [settings, Settings.value, Cli.parse, hgiven, hvariable, configOr, isRead, configValue,
        written, NanoToml.value, defaultValue]
  | algodToken =>
      have hgiven : line.algodToken = none := Option.map_eq_none_iff.mp hline
      have hvariable : env.canAlgodToken = none := Option.map_eq_none_iff.mp henv
      simp [settings, Settings.value, Cli.parse, hgiven, hvariable, configOr, isRead, configValue,
        written, NanoToml.value, defaultValue]
  | indexerUrl =>
      have hgiven : line.indexerUrl = none := Option.map_eq_none_iff.mp hline
      have hvariable : env.canIndexerUrl = none := Option.map_eq_none_iff.mp henv
      simp [settings, Settings.value, Cli.parse, hgiven, hvariable, configOr, isRead, configValue,
        written, NanoToml.value, defaultValue]
  | indexerToken =>
      have hgiven : line.indexerToken = none := Option.map_eq_none_iff.mp hline
      have hvariable : env.canIndexerToken = none := Option.map_eq_none_iff.mp henv
      simp [settings, Settings.value, Cli.parse, hgiven, hvariable, configOr, isRead, configValue,
        written, NanoToml.value, defaultValue]
  | hubUrl =>
      have hurl : line.hubUrl = none := Option.map_eq_none_iff.mp hline
      simp [settings, Settings.value, Cli.parse, hurl, isRead, defaultValue]
  | hubDisabled =>
      have hswitch := switch_eq_none hline
      simp [settings, Settings.value, Cli.parse, hswitch, isRead, configValue, written,
        NanoToml.value]
  | pollInterval =>
      have hinterval : line.pollInterval = none := Option.map_eq_none_iff.mp hline
      simp [settings, Settings.value, Cli.parse, hinterval, isRead, defaultValue]
  | noPlugins =>
      have hswitch := switch_eq_none hline
      simp [settings, Settings.value, Cli.parse, hswitch, isRead, configValue, written,
        NanoToml.value]
  | healthPort =>
      have hport : line.healthPort = none := Option.map_eq_none_iff.mp hline
      have hvariable : env.canHealthPort = none := Option.map_eq_none_iff.mp henv
      simp [settings, Settings.value, Cli.parse, hport, hvariable, isRead, configValue, written,
        NanoToml.value, defaultValue]
  | loggingFormat =>
      have hformat : line.logFormat = none := Option.map_eq_none_iff.mp hline
      have hvariable : env.canLogFormat = none := Option.map_eq_none_iff.mp henv
      cases hfile : config.logging.format with
      | none =>
          simp [settings, Settings.value, Cli.parse, hformat, hvariable, isRead, configValue,
            written, NanoToml.value, defaultValue, hfile, LogFormat.display]
      | some text =>
          have hused : Value.text (if text = "json" then LogFormat.json else .text).display =
              (formatValue text).getD (.text "text") := by
            unfold formatValue
            by_cases hjson : text = "json"
            · rw [if_pos hjson, if_pos (.inr hjson), hjson]
              rfl
            · by_cases htext : text = "text"
              · rw [if_neg hjson, if_pos (.inl htext), htext]
                rfl
              · rw [if_neg hjson, if_neg (not_or.mpr ⟨htext, hjson⟩)]
                rfl
          simpa [settings, Settings.value, Cli.parse, hformat, hvariable, isRead, configValue,
            written, NanoToml.value, defaultValue, hfile] using hused
  | loggingLevel =>
      have hlevel : line.logLevel = none := Option.map_eq_none_iff.mp hline
      have hvariable : env.canLogLevel.or env.rustLog = none := Option.map_eq_none_iff.mp henv
      obtain ⟨hfirst, hsecond⟩ := Option.or_eq_none_iff.mp hvariable
      simp [settings, Settings.value, Cli.parse, hlevel, hfirst, hsecond, isRead, configValue,
        written, NanoToml.value, defaultValue]

/-- After any commands of which none fails in a write, the file has for each key the value that was
accepted last, and `can run` uses it where the key is given nowhere else, apart from four keys that
it does not read from the file. -/
theorem config_of_run (hfaithful : toml.Faithful) {files : Files} {dataDir : String}
    {cfg : NanoConfig} {plugins : Plugins}
    (hloads : load toml none files dataDir = .ok (cfg, plugins)) {commands : List SetCommand}
    (hwrites : ∀ command ∈ commands, command.fs.writeError = none) :
    ∃ final, load toml none (commands.foldl (step toml dataDir) files) dataDir =
        .ok (final, plugins) ∧
      ∀ key, configValue final key =
          valuesAfter (configValue cfg) (accepted toml dataDir files commands) key ∧
        ∀ line env, CommandLine.value line key = none → Environment.value env key = none →
          (settings (.parse line env) final env.rustLog).value key =
            if isRead key then
              (valuesAfter (configValue cfg) (accepted toml dataDir files commands) key).getD
                (defaultValue (Cli.parse line env).network key)
            else defaultValue .localnet key := by
  obtain ⟨final, hfinal, hvalues⟩ := loads_run hfaithful hloads hwrites
  refine ⟨final, hfinal, fun key => ⟨congrFun hvalues key, fun line env hline henv => ?_⟩⟩
  rw [settings_value line env final hline henv, hvalues]

deriving instance DecidableEq for AgentConfig, Configuration.NetworkConfig, HubConfig,
  RuntimeConfig, LoggingConfig, NanoConfig

/-- A configuration with another node. -/
def nodeConfig : NanoConfig :=
  { defaultConfig with network.algodUrl := some "http://localhost:9" }

/-- What the crate writes of it. -/
def nodeText : String :=
  "[agent]\nname = \"can\"\n\n[network]\nalgod_url = \"http://localhost:9\"\n\n" ++
    "[hub]\nurl = \"http://localhost:3578\"\ndisabled = false\n\n" ++
    "[runtime]\npoll_interval = 5\nno_plugins = false\n\n[plugins]\nenabled = []\n\n[logging]\n"

/-- The crate on that configuration. -/
def nodeToml : Toml Unit where
  fromStr text :=
    if text = nodeText then .ok (written nodeConfig, ()) else .error "TOML parse error"
  toStringPretty contents :=
    if contents.1 = nodeConfig then .ok nodeText else .error "unsupported value"
  noPlugins := ()

theorem node_toml_faithful : nodeToml.Faithful where
  from_to_string := by
    intro config plugins text h
    unfold nodeToml at h ⊢
    dsimp only at h ⊢
    split at h
    next hconfig =>
      obtain rfl := Except.ok.inj h
      obtain rfl : config = nodeConfig := hconfig
      exact if_pos rfl
    next => cases h

/-- A command on which the file system does not fail. -/
def setCommand (key value : String) : SetCommand :=
  ⟨key, value, none, none, ⟨none, 0o644, none, none⟩⟩

/-- The node is set, and then the hub is disabled with a value that is none. -/
def nodeCommands : List SetCommand :=
  [setCommand "network.algod_url" "http://localhost:9", setCommand "hub.disabled" "yes"]

theorem accepted_node :
    accepted nodeToml "data" (fun _ => none) nodeCommands =
      [(.algodUrl, some (.text "http://localhost:9"))] := by
  have hset : cmdConfigSet nodeToml "data" (fun _ => none)
      (setCommand "network.algod_url" "http://localhost:9") =
        save nodeToml ⟨none, 0o644, none, none⟩ (fun _ => none) "data" (nodeConfig, ()) := rfl
  have hsaved : (save nodeToml ⟨none, 0o644, none, none⟩ (fun _ => none) "data"
      (nodeConfig, ())).1 = .ok () := rfl
  have hrefused : ∃ failure, (cmdConfigSet nodeToml "data"
      (save nodeToml ⟨none, 0o644, none, none⟩ (fun _ => none) "data" (nodeConfig, ())).2
      (setCommand "hub.disabled" "yes")).1 = .error failure := by
    unfold cmdConfigSet
    rw [show (setCommand "hub.disabled" "yes").readError = none from rfl,
      load_save node_toml_faithful hsaved]
    exact ⟨_, rfl⟩
  obtain ⟨failure, hrefused⟩ := hrefused
  rw [nodeCommands, accepted, hset, hsaved, accepted, step, hset, hrefused]
  rfl

/-- `config_of_run` for the URL of the node: `can run` uses the one that was set. -/
theorem node_config_of_run :
    accepted nodeToml "data" (fun _ => none) nodeCommands =
        [(.algodUrl, some (.text "http://localhost:9"))] ∧
      ∃ final, load nodeToml none (nodeCommands.foldl (step nodeToml "data") fun _ => none) "data" =
          .ok (final, ()) ∧
        (settings (.parse noSources.line noSources.env) final none).value .algodUrl =
          .text "http://localhost:9" := by
  have hloads : load nodeToml none (fun _ => none) "data" = .ok (defaultConfig, ()) := rfl
  have hwrites : ∀ command ∈ nodeCommands, command.fs.writeError = none := by
    simp [nodeCommands, setCommand]
  obtain ⟨final, hfinal, hvalues⟩ := config_of_run node_toml_faithful hloads hwrites
  refine ⟨accepted_node, final, hfinal, ?_⟩
  rw [accepted_node] at hvalues
  exact (hvalues .algodUrl).2 noSources.line noSources.env rfl rfl

end CorvidNano.Agent.ConfigFile
