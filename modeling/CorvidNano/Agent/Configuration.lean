import CorvidNano.Library.Precedence

/-!
# The configuration of an agent

What `can run` uses for each key of `nano.toml`: the command line and the environment as `clap`
reads them, `nano.toml` with the defaults of `config.rs`, the merge in `main`, and the network
presets that `cmd_run` falls back to.

The documented precedence is command line, environment, `nano.toml`, default.
`follows_precedence_iff` says for each key when the value that is used is the one that this order
gives.
-/

namespace CorvidNano.Agent.Configuration

open Precedence

/-- `Network`. -/
inductive Network where
  | localnet
  | testnet
  | mainnet
  deriving DecidableEq

/-- The name of a network. -/
def Network.display : Network → String
  | .localnet => "localnet"
  | .testnet => "testnet"
  | .mainnet => "mainnet"

/-- `NetworkConfig` of `main.rs`. -/
structure NetworkDefaults where
  algodUrl : String
  algodToken : String
  indexerUrl : String
  indexerToken : String

/-- `Network::defaults`. -/
def Network.defaults : Network → NetworkDefaults
  | .localnet => {
      algodUrl := "http://localhost:4001"
      algodToken := String.ofList (List.replicate 64 'a')
      indexerUrl := "http://localhost:8980"
      indexerToken := String.ofList (List.replicate 64 'a') }
  | .testnet => {
      algodUrl := "https://testnet-api.4160.nodely.dev"
      algodToken := ""
      indexerUrl := "https://testnet-idx.4160.nodely.dev"
      indexerToken := "" }
  | .mainnet => {
      algodUrl := "https://mainnet-api.4160.nodely.dev"
      algodToken := ""
      indexerUrl := "https://mainnet-idx.4160.nodely.dev"
      indexerToken := "" }

/-- `LogFormat`. -/
inductive LogFormat where
  | text
  | json
  deriving DecidableEq

/-- The name of a format. -/
def LogFormat.display : LogFormat → String
  | .text => "text"
  | .json => "json"

/-- The options of `can run` that are given on the command line. The two switches can only be
given or not. -/
structure CommandLine where
  network : Option Network
  algodUrl : Option String
  algodToken : Option String
  indexerUrl : Option String
  indexerToken : Option String
  name : Option String
  hubUrl : Option String
  pollInterval : Option Nat
  noPlugins : Bool
  noHub : Bool
  healthPort : Option Nat
  logFormat : Option LogFormat
  logLevel : Option String

/-- The environment variables that the documentation or the program names, with `CAN_HUB_URL`,
which nothing reads. `RUST_LOG` is present if it is a log filter. -/
structure Environment where
  canNetwork : Option Network
  canAlgodUrl : Option String
  canAlgodToken : Option String
  canIndexerUrl : Option String
  canIndexerToken : Option String
  canHubUrl : Option String
  canHealthPort : Option Nat
  canLogFormat : Option LogFormat
  canLogLevel : Option String
  rustLog : Option String

/-- The values in `nano.toml`. A file that does not exist has none. -/
structure NanoToml where
  agentName : Option String
  agentNetwork : Option String
  algodUrl : Option String
  algodToken : Option String
  indexerUrl : Option String
  indexerToken : Option String
  hubUrl : Option String
  hubDisabled : Option Bool
  pollInterval : Option Nat
  noPlugins : Option Bool
  healthPort : Option Nat
  loggingFormat : Option String
  loggingLevel : Option String

/-- `AgentConfig`. -/
structure AgentConfig where
  name : String
  network : Option String

/-- `NetworkConfig` of `config.rs`. -/
structure NetworkConfig where
  algodUrl : Option String
  algodToken : Option String
  indexerUrl : Option String
  indexerToken : Option String

/-- `HubConfig`. -/
structure HubConfig where
  url : String
  disabled : Bool

/-- `RuntimeConfig`. -/
structure RuntimeConfig where
  pollInterval : Nat
  noPlugins : Bool
  healthPort : Option Nat

/-- `LoggingConfig`. -/
structure LoggingConfig where
  format : Option String
  level : Option String

/-- `NanoConfig`, without the tables of the plugins. -/
structure NanoConfig where
  agent : AgentConfig
  network : NetworkConfig
  hub : HubConfig
  runtime : RuntimeConfig
  logging : LoggingConfig

/-- `NanoConfig::load`. -/
def NanoConfig.load (toml : NanoToml) : NanoConfig where
  agent := {
    name := toml.agentName.getD "can"
    network := toml.agentNetwork }
  network := {
    algodUrl := toml.algodUrl
    algodToken := toml.algodToken
    indexerUrl := toml.indexerUrl
    indexerToken := toml.indexerToken }
  hub := {
    url := toml.hubUrl.getD "http://localhost:3578"
    disabled := toml.hubDisabled.getD false }
  runtime := {
    pollInterval := toml.pollInterval.getD 5
    noPlugins := toml.noPlugins.getD false
    healthPort := toml.healthPort }
  logging := {
    format := toml.loggingFormat
    level := toml.loggingLevel }

/-- `Cli` with the fields of `Command::Run`. -/
structure Cli where
  network : Network
  algodUrl : Option String
  algodToken : Option String
  indexerUrl : Option String
  indexerToken : Option String
  name : String
  hubUrl : String
  pollInterval : Nat
  noPlugins : Bool
  noHub : Bool
  healthPort : Option Nat
  logFormat : LogFormat
  logLevel : Option String

/-- `Cli::parse`: `clap` takes an option from the command line, else from its variable if it has
one, else its default value if it has one. -/
def Cli.parse (line : CommandLine) (env : Environment) : Cli where
  network := (line.network.or env.canNetwork).getD .localnet
  algodUrl := line.algodUrl.or env.canAlgodUrl
  algodToken := line.algodToken.or env.canAlgodToken
  indexerUrl := line.indexerUrl.or env.canIndexerUrl
  indexerToken := line.indexerToken.or env.canIndexerToken
  name := line.name.getD "can"
  hubUrl := line.hubUrl.getD "http://localhost:3578"
  pollInterval := line.pollInterval.getD 5
  noPlugins := line.noPlugins
  noHub := line.noHub
  healthPort := line.healthPort.or env.canHealthPort
  logFormat := (line.logFormat.or env.canLogFormat).getD .text
  logLevel := line.logLevel.or env.canLogLevel

/-- `config_or`. -/
def configOr {α : Type} (cliVal cfgVal : Option α) : Option α := cliVal.or cfgVal

/-- What the command works with. -/
structure Settings where
  network : Network
  algodUrl : String
  algodToken : String
  indexerUrl : String
  indexerToken : String
  name : String
  hubUrl : String
  pollInterval : Nat
  noPlugins : Bool
  noHub : Bool
  healthPort : Option Nat
  logFormat : LogFormat
  logFilter : String

/-- `main` up to the beginning of `cmd_run`. -/
def settings (cli : Cli) (cfg : NanoConfig) (rustLog : Option String) : Settings :=
  let logLevel := cli.logLevel.or cfg.logging.level
  let net := cli.network.defaults
  { network := cli.network
    algodUrl := (configOr cli.algodUrl cfg.network.algodUrl).getD net.algodUrl
    algodToken := (configOr cli.algodToken cfg.network.algodToken).getD net.algodToken
    indexerUrl := (configOr cli.indexerUrl cfg.network.indexerUrl).getD net.indexerUrl
    indexerToken := (configOr cli.indexerToken cfg.network.indexerToken).getD net.indexerToken
    name := cli.name
    hubUrl := cli.hubUrl
    pollInterval := cli.pollInterval
    noPlugins := cli.noPlugins || cfg.runtime.noPlugins
    noHub := cli.noHub || cfg.hub.disabled
    healthPort := cli.healthPort.or cfg.runtime.healthPort
    logFormat :=
      if cfg.logging.format = some "json" ∧ cli.logFormat = .text then .json else cli.logFormat
    -- the variable of the filter is looked at last
    logFilter := logLevel.getD (rustLog.getD "info") }

/-- Where the values of the configuration come from. -/
structure Sources where
  line : CommandLine
  env : Environment
  toml : NanoToml

/-- What `can run` uses. -/
def Sources.settings (sources : Sources) : Settings :=
  Configuration.settings (.parse sources.line sources.env) (.load sources.toml)
    sources.env.rustLog

/-! ## The documented precedence -/

/-- The configuration keys. -/
inductive Key where
  | agentName
  | agentNetwork
  | algodUrl
  | algodToken
  | indexerUrl
  | indexerToken
  | hubUrl
  | hubDisabled
  | pollInterval
  | noPlugins
  | healthPort
  | loggingFormat
  | loggingLevel

/-- The value of a key. -/
inductive Value where
  | text (text : String)
  | number (number : Nat)
  | flag (flag : Bool)
  | off
  deriving DecidableEq

/-- A switch that is given. -/
def switch (given : Bool) : Option Value := if given then some (.flag true) else none

/-- The value on the command line. -/
def CommandLine.value (line : CommandLine) : Key → Option Value
  | .agentName => line.name.map .text
  | .agentNetwork => line.network.map fun network => .text network.display
  | .algodUrl => line.algodUrl.map .text
  | .algodToken => line.algodToken.map .text
  | .indexerUrl => line.indexerUrl.map .text
  | .indexerToken => line.indexerToken.map .text
  | .hubUrl => line.hubUrl.map .text
  | .hubDisabled => switch line.noHub
  | .pollInterval => line.pollInterval.map .number
  | .noPlugins => switch line.noPlugins
  | .healthPort => line.healthPort.map .number
  | .loggingFormat => line.logFormat.map fun format => .text format.display
  | .loggingLevel => line.logLevel.map .text

/-- The value in the environment. Two variables set the level of the log. -/
def Environment.value (env : Environment) : Key → Option Value
  | .agentNetwork => env.canNetwork.map fun network => .text network.display
  | .algodUrl => env.canAlgodUrl.map .text
  | .algodToken => env.canAlgodToken.map .text
  | .indexerUrl => env.canIndexerUrl.map .text
  | .indexerToken => env.canIndexerToken.map .text
  | .hubUrl => env.canHubUrl.map .text
  | .healthPort => env.canHealthPort.map .number
  | .loggingFormat => env.canLogFormat.map fun format => .text format.display
  | .loggingLevel => (env.canLogLevel.or env.rustLog).map .text
  | .agentName | .hubDisabled | .pollInterval | .noPlugins => none

/-- A format that is documented. -/
def formatValue (text : String) : Option Value :=
  if text = "text" ∨ text = "json" then some (.text text) else none

/-- The value in `nano.toml`. -/
def NanoToml.value (toml : NanoToml) : Key → Option Value
  | .agentName => toml.agentName.map .text
  | .agentNetwork => toml.agentNetwork.map .text
  | .algodUrl => toml.algodUrl.map .text
  | .algodToken => toml.algodToken.map .text
  | .indexerUrl => toml.indexerUrl.map .text
  | .indexerToken => toml.indexerToken.map .text
  | .hubUrl => toml.hubUrl.map .text
  | .hubDisabled => toml.hubDisabled.map .flag
  | .pollInterval => toml.pollInterval.map .number
  | .noPlugins => toml.noPlugins.map .flag
  | .healthPort => toml.healthPort.map .number
  | .loggingFormat => toml.loggingFormat.bind formatValue
  | .loggingLevel => toml.loggingLevel.map .text

/-- The default. Those of the endpoints depend on the network. -/
def defaultValue (network : Network) : Key → Value
  | .agentName => .text "can"
  | .agentNetwork => .text "localnet"
  | .algodUrl => .text network.defaults.algodUrl
  | .algodToken => .text network.defaults.algodToken
  | .indexerUrl => .text network.defaults.indexerUrl
  | .indexerToken => .text network.defaults.indexerToken
  | .hubUrl => .text "http://localhost:3578"
  | .hubDisabled => .flag false
  | .pollInterval => .number 5
  | .noPlugins => .flag false
  | .healthPort => .off
  | .loggingFormat => .text "text"
  | .loggingLevel => .text "info"

/-- The value that is used. -/
def Settings.value (settings : Settings) : Key → Value
  | .agentName => .text settings.name
  | .agentNetwork => .text settings.network.display
  | .algodUrl => .text settings.algodUrl
  | .algodToken => .text settings.algodToken
  | .indexerUrl => .text settings.indexerUrl
  | .indexerToken => .text settings.indexerToken
  | .hubUrl => .text settings.hubUrl
  | .hubDisabled => .flag settings.noHub
  | .pollInterval => .number settings.pollInterval
  | .noPlugins => .flag settings.noPlugins
  | .healthPort => (settings.healthPort.map .number).getD .off
  | .loggingFormat => .text settings.logFormat.display
  | .loggingLevel => .text settings.logFilter

/-- The sources of a key in the documented order. -/
def Sources.values (sources : Sources) (key : Key) : List (Option Value) :=
  [sources.line.value key, sources.env.value key, sources.toml.value key]

/-- The value that is used is that of the first source that has one. -/
def FollowsPrecedence (sources : Sources) (key : Key) : Prop :=
  sources.settings.value key =
    firstPresent (sources.values key) (defaultValue sources.settings.network key)

/-- The sources that are not read, or read too late, make no difference for the key. -/
def MissesNothing (sources : Sources) : Key → Prop
  | .agentName => sources.line.name ≠ none ∨ sources.toml.agentName = none ∨
      sources.toml.agentName = some "can"
  | .agentNetwork => sources.line.network ≠ none ∨ sources.env.canNetwork ≠ none ∨
      sources.toml.agentNetwork = none ∨ sources.toml.agentNetwork = some "localnet"
  | .hubUrl => sources.line.hubUrl ≠ none ∨
      (sources.env.canHubUrl.or sources.toml.hubUrl).getD "http://localhost:3578" =
        "http://localhost:3578"
  | .pollInterval => sources.line.pollInterval ≠ none ∨ sources.toml.pollInterval = none ∨
      sources.toml.pollInterval = some 5
  | .loggingFormat => ¬(sources.line.logFormat.or sources.env.canLogFormat = some .text ∧
      sources.toml.loggingFormat = some "json")
  | .loggingLevel => sources.line.logLevel ≠ none ∨ sources.env.canLogLevel ≠ none ∨
      sources.toml.loggingLevel = none ∨ sources.env.rustLog = none ∨
      sources.toml.loggingLevel = sources.env.rustLog
  | .algodUrl | .algodToken | .indexerUrl | .indexerToken | .hubDisabled | .noPlugins
  | .healthPort => True

/-! ## One key after the other -/

/-- A value that is made of the values of three sources. -/
theorem first_present_value {α : Type} (f : α → Value) (line env toml : Option α) (default : α) :
    firstPresent [line.map f, env.map f, toml.map f] (f default) =
      f (firstPresent [line, env, toml] default) :=
  first_present_map f [line, env, toml] default

/-- All three sources are read in their order, and there may be no default of that kind. -/
theorem all_read_or {α : Type} (f : α → Value) (line env toml : Option α) (default : Value) :
    ((configOr (line.or env) toml).map f).getD default =
      firstPresent [line.map f, env.map f, toml.map f] default := by
  rw [configOr, Option.map_or, Option.map_or, get_d_or]
  cases line with
  | some value => rfl
  | none => cases env <;> rfl

/-- All three sources are read in their order. -/
theorem all_read {α : Type} (f : α → Value) (line env toml : Option α) (default : α) :
    f ((configOr (line.or env) toml).getD default) =
      firstPresent [line.map f, env.map f, toml.map f] (f default) := by
  rw [← Option.getD_map f]
  exact all_read_or f line env toml (f default)

/-- The file is not read. It makes no difference if another source has a value, or if the file
has none or the default. -/
theorem file_unread_iff {α : Type} {f : α → Value} (hf : ∀ a b, f a = f b → a = b)
    (line env toml : Option α) (default : α) :
    f ((line.or env).getD default) =
        firstPresent [line.map f, env.map f, toml.map f] (f default) ↔
      line ≠ none ∨ env ≠ none ∨ toml = none ∨ toml = some default := by
  have hdrop := @drop_source_iff _ [line, env] [] toml default
  rw [first_present_value, get_d_or]
  refine ⟨fun h => ?_, fun h => congrArg f (hdrop.2 ?_)⟩
  · have hor := hdrop.1 (hf _ _ h)
    simpa [or_assoc] using hor
  · simpa [or_assoc] using h

/-- Neither the environment nor the file is read. -/
theorem line_alone_iff {α : Type} {f : α → Value} (hf : ∀ a b, f a = f b → a = b)
    (line env toml : Option α) (default : α) :
    f (line.getD default) =
        firstPresent [line.map f, env.map f, toml.map f] (f default) ↔
      line ≠ none ∨ (env.or toml).getD default = default := by
  have happend := first_present_append [line] [env, toml] default
  have hline : line.getD default = firstPresent [line] default := by cases line <;> rfl
  have heq := @first_present_eq_iff _ [line] default (firstPresent [env, toml] default)
  rw [first_present_value, get_d_or, hline]
  have hcons : firstPresent [line, env, toml] default =
      firstPresent [line] (firstPresent [env, toml] default) := happend
  rw [hcons]
  refine ⟨fun h => ?_, fun h => congrArg f (heq.2 ?_)⟩
  · have hor := heq.1 (hf _ _ h)
    simpa [eq_comm] using hor
  · simpa [eq_comm] using h

/-- The file is read before the second variable. That makes no difference if an earlier source
has a value, or if one of the two has none or both have the same. -/
theorem file_before_variable_iff (line first second toml : Option String) (default : String) :
    Value.text (((line.or first).or toml).getD (second.getD default)) =
        firstPresent [line.map .text, (first.or second).map .text, toml.map .text]
          (.text default) ↔
      line ≠ none ∨ first ≠ none ∨ toml = none ∨ second = none ∨ toml = second := by
  have hswap := @swap_sources_iff _ [line, first] [] toml second default
  have hread : ((line.or first).or toml).getD (second.getD default) =
      firstPresent [line, first, toml, second] default := by
    cases line with
    | some value => rfl
    | none =>
        cases first with
        | some value => rfl
        | none =>
            cases toml with
            | some value => rfl
            | none => cases second <;> rfl
  have hwanted : firstPresent [line, first.or second, toml] default =
      firstPresent [line, first, second, toml] default := by
    cases line with
    | some value => rfl
    | none => cases first <;> rfl
  rw [first_present_value, hread, hwanted, Value.text.injEq]
  refine ⟨fun h => ?_, fun h => hswap.2 ?_⟩
  · have hor := hswap.1 h
    simpa [or_assoc] using hor
  · simpa [or_assoc] using h

/-- A switch that is given on the command line or set in the file. -/
theorem switch_read (given : Bool) (toml : Option Bool) :
    Value.flag (given || toml.getD false) =
      firstPresent [switch given, none, toml.map .flag] (.flag false) := by
  cases given with
  | true => rfl
  | false => cases toml <;> rfl

/-- The file is read in the place of `text`, whether that is the default or not. -/
theorem format_read_iff (given : Option LogFormat) (toml : Option String) :
    Value.text (if toml = some "json" ∧ given.getD .text = .text then LogFormat.json
          else given.getD .text).display =
        firstPresent [given.map fun format => .text format.display, toml.bind formatValue]
          (.text "text") ↔
      ¬(given = some .text ∧ toml = some "json") := by
  by_cases hjson : toml = some "json"
  · subst hjson
    cases given with
    | none => exact iff_of_true rfl (by simp)
    | some format =>
        cases format with
        | text => exact iff_of_false (by decide) (by simp)
        | json => exact iff_of_true rfl (by simp)
  · have hvalue : toml.bind formatValue = none ∨ toml.bind formatValue = some (.text "text") := by
      cases toml with
      | none => exact Or.inl rfl
      | some format =>
          have hne : format ≠ "json" := fun h => hjson (by rw [h])
          show formatValue format = none ∨ formatValue format = some (.text "text")
          by_cases htext : format = "text"
          · rw [htext]
            exact Or.inr rfl
          · exact Or.inl (if_neg fun h => h.elim htext hne)
    rw [if_neg fun h => hjson h.1]
    refine iff_of_true ?_ fun h => hjson h.2
    cases given with
    | some format => rfl
    | none =>
        rcases hvalue with hvalue | hvalue
        · rw [hvalue]
          rfl
        · rw [hvalue]
          rfl

/-- The value that is used for a key is that of the first source in the documented order exactly
if the sources that are not read, or too late, make no difference. -/
theorem follows_precedence_iff (sources : Sources) (key : Key) :
    FollowsPrecedence sources key ↔ MissesNothing sources key := by
  have htext : ∀ a b, Value.text a = Value.text b → a = b := fun _ _ h => Value.text.inj h
  have hnumber : ∀ a b, Value.number a = Value.number b → a = b := fun _ _ h => Value.number.inj h
  obtain ⟨line, env, toml⟩ := sources
  cases key with
  | agentName =>
      have hfile := file_unread_iff htext line.name none toml.agentName "can"
      show Value.text (line.name.getD "can") =
          firstPresent [line.name.map .text, none, toml.agentName.map .text] (.text "can") ↔
        line.name ≠ none ∨ toml.agentName = none ∨ toml.agentName = some "can"
      simpa using hfile
  | agentNetwork =>
      have hfile := file_unread_iff htext (line.network.map Network.display)
        (env.canNetwork.map Network.display) toml.agentNetwork "localnet"
      have hused : ((line.network.or env.canNetwork).getD .localnet).display =
          ((line.network.map Network.display).or
            (env.canNetwork.map Network.display)).getD "localnet" := by
        cases line.network with
        | some network => rfl
        | none => cases env.canNetwork <;> rfl
      rw [← hused, Option.map_map, Option.map_map] at hfile
      show Value.text ((line.network.or env.canNetwork).getD .localnet).display =
          firstPresent [line.network.map (Value.text ∘ Network.display),
            env.canNetwork.map (Value.text ∘ Network.display), toml.agentNetwork.map .text]
            (.text "localnet") ↔
        line.network ≠ none ∨ env.canNetwork ≠ none ∨ toml.agentNetwork = none ∨
          toml.agentNetwork = some "localnet"
      simpa using hfile
  | algodUrl => exact iff_of_true (all_read _ _ _ _ _) trivial
  | algodToken => exact iff_of_true (all_read _ _ _ _ _) trivial
  | indexerUrl => exact iff_of_true (all_read _ _ _ _ _) trivial
  | indexerToken => exact iff_of_true (all_read _ _ _ _ _) trivial
  | hubUrl => exact line_alone_iff htext line.hubUrl env.canHubUrl toml.hubUrl _
  | hubDisabled => exact iff_of_true (switch_read line.noHub toml.hubDisabled) trivial
  | pollInterval =>
      have hfile := file_unread_iff hnumber line.pollInterval none toml.pollInterval 5
      show Value.number (line.pollInterval.getD 5) =
          firstPresent [line.pollInterval.map .number, none, toml.pollInterval.map .number]
            (.number 5) ↔
        line.pollInterval ≠ none ∨ toml.pollInterval = none ∨ toml.pollInterval = some 5
      simpa using hfile
  | noPlugins => exact iff_of_true (switch_read line.noPlugins toml.noPlugins) trivial
  | healthPort =>
      exact iff_of_true
        (all_read_or .number line.healthPort env.canHealthPort toml.healthPort .off) trivial
  | loggingFormat =>
      have hformat := format_read_iff (line.logFormat.or env.canLogFormat) toml.loggingFormat
      have hline : firstPresent [line.logFormat.map fun format => Value.text format.display,
            env.canLogFormat.map fun format => .text format.display,
            toml.loggingFormat.bind formatValue] (.text "text") =
          firstPresent [(line.logFormat.or env.canLogFormat).map
              fun format => Value.text format.display,
            toml.loggingFormat.bind formatValue] (.text "text") := by
        cases line.logFormat with
        | some format => rfl
        | none => rfl
      rw [← hline] at hformat
      exact hformat
  | loggingLevel =>
      exact file_before_variable_iff line.logLevel env.canLogLevel env.rustLog
        toml.loggingLevel "info"

/-- Nothing is given or set. -/
def noSources : Sources where
  line := {
    network := none
    algodUrl := none
    algodToken := none
    indexerUrl := none
    indexerToken := none
    name := none
    hubUrl := none
    pollInterval := none
    noPlugins := false
    noHub := false
    healthPort := none
    logFormat := none
    logLevel := none }
  env := {
    canNetwork := none
    canAlgodUrl := none
    canAlgodToken := none
    canIndexerUrl := none
    canIndexerToken := none
    canHubUrl := none
    canHealthPort := none
    canLogFormat := none
    canLogLevel := none
    rustLog := none }
  toml := {
    agentName := none
    agentNetwork := none
    algodUrl := none
    algodToken := none
    indexerUrl := none
    indexerToken := none
    hubUrl := none
    hubDisabled := none
    pollInterval := none
    noPlugins := none
    healthPort := none
    loggingFormat := none
    loggingLevel := none }

/-- A name and a log format in the file, and another format on the command line. -/
def namedAgent : Sources :=
  { noSources with
    line := { noSources.line with logFormat := some .text }
    toml := { noSources.toml with
      agentName := some "kira"
      loggingFormat := some "json" } }

/-- The name of the file is not used, and its log format is used in spite of the command line. -/
theorem name_unused_format_overridden :
    namedAgent.settings.name = "can" ∧ namedAgent.settings.logFormat = .json ∧
      ¬FollowsPrecedence namedAgent .agentName ∧ ¬FollowsPrecedence namedAgent .loggingFormat := by
  refine ⟨rfl, rfl, fun h => ?_, fun h => ?_⟩
  · have hname : Value.text "can" = .text "kira" := h
    exact absurd hname (by decide)
  · have hformat : Value.text "json" = .text "text" := h
    exact absurd hformat (by decide)

end CorvidNano.Agent.Configuration
