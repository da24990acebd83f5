import CorvidNano.Library.Fallible
import CorvidNano.Plugins.KeyValue
import CorvidNano.Plugins.LlmPersonality

/-!
# The `coding-companion` plugin

Its tools, over the entries that the host stores for it (`namespaces_isolated` of `Host.Storage`
says that they are its own).

`calls_independent` is the first main result: `set_config` has no effect on any later call, since
the plugin does not recognise what the host returns for the stored configuration. `traps_iff` says
in which calls the plugin traps: those with a long file that cannot be cut at byte 8000.
-/

namespace CorvidNano.Plugins.CodingCompanion

open Bridge.ToolInput (asStr)
open Fallible (to_option_eq_some)
open KeyValue LlmPersonality

/-! ## Data -/

/-- `Verbosity`. -/
inductive Verbosity where
  | concise
  | detailed
  deriving DecidableEq

/-- `CompanionConfig`. -/
structure CompanionConfig where
  useTts : Bool
  verbosity : Verbosity
  personality : String
  deriving DecidableEq

/-- `CompanionConfig::default`. -/
def CompanionConfig.default : CompanionConfig where
  useTts := false
  verbosity := .concise
  personality := "enthusiastic coding buddy who loves helping developers learn and grow. " ++
    "You're encouraging, clear, and celebrate wins"

/-- The name of a verbosity, in lower case. -/
def Verbosity.lowercase : Verbosity → String
  | .concise => "concise"
  | .detailed => "detailed"

/-- The verbosity of a name. -/
def Verbosity.parse : String → Option Verbosity
  | "concise" => some .concise
  | "detailed" => some .detailed
  | _ => none

/-- `Value::as_bool`. -/
def asBool : Json → Option Bool
  | .bool value => some value
  | _ => none

/-- A configuration as serde writes it. The members are in the order of their names. -/
def CompanionConfig.toJson (cfg : CompanionConfig) : Json :=
  .object [
    ("personality", .string cfg.personality),
    ("use_tts", .bool cfg.useTts),
    ("verbosity", .string cfg.verbosity.lowercase)]

/-- What serde makes of a value where a configuration is expected. -/
def CompanionConfig.read : Json → Option CompanionConfig :=
  readStruct ["use_tts", "verbosity", "personality"] fun field => do
    let useTts ← (field "use_tts").bind asBool
    let verbosity ← ((field "verbosity").bind asStr).bind Verbosity.parse
    let personality ← (field "personality").bind asStr
    pure { useTts, verbosity, personality }

/-- `err`. -/
def err (msg : String) : Json := .object [("error", .string msg), ("ok", .bool false)]

/-- `system_prompt`. -/
def systemPrompt (cfg : CompanionConfig) : String :=
  let lengthHint := match cfg.verbosity with
    | .concise => "Keep responses brief — 2-4 sentences maximum."
    | .detailed => "Give thorough explanations with examples where helpful."
  "You are a " ++ cfg.personality ++ ". " ++ lengthHint

/-- `MAX_FILE_CHARS`. -/
def maxFileChars : Nat := 8000

/-- `truncate_file`, or `none` where the slice panics. -/
def truncateFile (content : String) (maxChars : Nat) : Option String :=
  if Utf8.size content.toList ≤ maxChars then some content
  else
    (Utf8.sliceTo maxChars content.toList).map fun truncated =>
      String.ofList truncated ++ "\n\n[... file truncated at " ++ toString maxChars ++
        " characters ...]"

/-! ## The host -/

/-- The entries of the plugin. -/
abbrev Kv := String → Option (List UInt8)

/-- What the plugin meets in a call: whether its allocator finds room for a stored value, whether
the host stores one, the files that the host reads to it, and what the LLM answers. -/
structure Circumstances where
  allocates : List UInt8 → Bool
  stores : Bool
  files : String → Option String
  answer : LlmRequest → Except String String

/-- What a call leaves in the store, what it has asked the LLM and spoken, and the value that it
returns, or none if it traps. -/
structure Reply where
  kv : Kv
  request : Option LlmRequest
  spoken : Option String
  result : Option Json

variable {State : Type} (codecs : Codecs State)

/-- `kv_get_json`. -/
def kvGetJson (here : Circumstances) (kv : Kv) (key : String) : Option Json :=
  match kv key with
  | none => none
  | some bytes => if here.allocates bytes then (codingCompanion codecs).decode bytes else none

/-- `kv_set_json`. -/
def kvSetJson (here : Circumstances) (kv : Kv) (key : String) (value : Json) : Kv :=
  match (codingCompanion codecs).encode value with
  | none => kv
  | some bytes => if here.stores then Function.update kv key (some bytes) else kv

/-- `load_config`. -/
def loadConfig (here : Circumstances) (kv : Kv) : CompanionConfig :=
  ((kvGetJson codecs here kv "config").bind CompanionConfig.read).getD .default

/-- `save_config`. -/
def saveConfig (here : Circumstances) (kv : Kv) (cfg : CompanionConfig) : Kv :=
  kvSetJson codecs here kv "config" cfg.toJson

/-! ## The tools -/

/-- A result of a tool that asks and speaks nothing. -/
def answer (kv : Kv) (result : Json) : Reply := ⟨kv, none, none, some result⟩

/-- A member of the input that is a text. -/
def textOf (input : Json) (name : String) : Option String := (input.get? name).bind asStr

/-- A text that has to be given. -/
def requiredText (input : Json) (name : String) : Except Json String :=
  match textOf input name with
  | some text => if text = "" then .error (err ("missing required field: " ++ name)) else .ok text
  | none => .error (err ("missing required field: " ++ name))

/-- Asks the LLM, and speaks what it answers if it should. -/
def ask (here : Circumstances) (kv : Kv) (cfg : CompanionConfig) (content : String) (speak : Bool)
    (reply : String → Json) : Reply :=
  let request : LlmRequest := { messages := [⟨"user", content⟩], system := systemPrompt cfg }
  match here.answer request with
  | .error e => ⟨kv, some request, none, some (err ("LLM error: " ++ e))⟩
  | .ok response =>
      ⟨kv, some request, if speak then some response else none, some (reply response)⟩

/-- A part of a request that shows a file, if there is one, and `none` where `truncate_file`
panics. -/
def fileContext (here : Circumstances) (input : Json) (render : String → String → String) :
    Option String :=
  match textOf input "file" with
  | none => some ""
  | some path =>
      match here.files path with
      | none => some ""
      | some contents => (truncateFile contents maxFileChars).map (render path)

/-- `handle_analyze_file`. -/
def handleAnalyzeFile (here : Circumstances) (kv : Kv) (input : Json) : Reply :=
  match requiredText input "path" with
  | .error result => answer kv result
  | .ok path =>
      match here.files path with
      | none => answer kv (err ("could not read file: " ++ path))
      | some contents =>
          match truncateFile contents maxFileChars with
          | none => ⟨kv, none, none, none⟩
          | some truncated =>
              let question := (textOf input "question").getD
                ("Give a clear overview of what this code does, its key components, and " ++
                  "anything notable about its design.")
              ask here kv (loadConfig codecs here kv)
                ("Here is the file `" ++ path ++ "`:\n\n```\n" ++ truncated ++ "\n```\n\n" ++
                  question) false
                fun response => .object [
                  ("analysis", .string response), ("file", .string path), ("ok", .bool true)]

/-- `handle_explain_error`. -/
def handleExplainError (here : Circumstances) (kv : Kv) (input : Json) : Reply :=
  match requiredText input "error" with
  | .error result => answer kv result
  | .ok errorMsg =>
      let file := fileContext here input fun path truncated =>
        "Here is the relevant file `" ++ path ++ "`:\n\n```\n" ++ truncated ++ "\n```\n\n"
      match file with
      | none => ⟨kv, none, none, none⟩
      | some file =>
          ask here kv (loadConfig codecs here kv)
            ("I got this error:\n\n```\n" ++ errorMsg ++ "\n```\n\n" ++ file ++
              "Explain what caused the error and how to fix it.") false
            fun response => .object [("explanation", .string response), ("ok", .bool true)]

/-- `handle_hint`. -/
def handleHint (here : Circumstances) (kv : Kv) (input : Json) : Reply :=
  match requiredText input "context" with
  | .error result => answer kv result
  | .ok context =>
      let stuckOn := (textOf input "stuck_on").getD ""
      let stuck := if stuckOn = "" then "" else "\n\nI'm stuck on: " ++ stuckOn
      let file := fileContext here input fun path truncated =>
        "\n\nCurrent file `" ++ path ++ "`:\n\n```\n" ++ truncated ++ "\n```"
      match file with
      | none => ⟨kv, none, none, none⟩
      | some file =>
          let cfg := loadConfig codecs here kv
          ask here kv cfg
            ("I'm working on: " ++ context ++ stuck ++ file ++
              "\n\nGive me a helpful hint without giving away the full solution.") cfg.useTts
            fun hint => .object [("hint", .string hint), ("ok", .bool true)]

/-- `handle_quiz`. -/
def handleQuiz (here : Circumstances) (kv : Kv) (input : Json) : Reply :=
  match requiredText input "topic" with
  | .error result => answer kv result
  | .ok topic =>
      let difficulty := (textOf input "difficulty").getD "intermediate"
      if difficulty ∉ ["beginner", "intermediate", "advanced"] then
        answer kv (err ("invalid difficulty: " ++ difficulty ++
          ". Must be one of: beginner, intermediate, advanced"))
      else
        ask here kv (loadConfig codecs here kv)
          ("Quiz me on '" ++ topic ++ "' at " ++ difficulty ++ " level. " ++
            "Ask one clear question and wait for my answer. " ++
            "After the question, add a blank line then write 'Answer when ready!' " ++
            "Do not reveal the answer yet.") false
          fun question => .object [
            ("difficulty", .string difficulty), ("ok", .bool true),
            ("question", .string question), ("topic", .string topic)]

/-- `handle_celebrate`. -/
def handleCelebrate (here : Circumstances) (kv : Kv) (input : Json) : Reply :=
  match requiredText input "achievement" with
  | .error result => answer kv result
  | .ok achievement =>
      let cfg := loadConfig codecs here kv
      let shouldSpeak := ((input.get? "speak").bind asBool).getD cfg.useTts
      ask here kv cfg
        ("Celebrate this achievement enthusiastically: " ++ achievement ++ ". " ++
          "Keep it short, fun, and genuinely encouraging.") shouldSpeak
        fun celebration => .object [
          ("celebration", .string celebration), ("ok", .bool true),
          ("spoken", .bool shouldSpeak)]

/-- A response with a configuration. -/
def configResult (cfg : CompanionConfig) : Json :=
  .object [("config", cfg.toJson), ("ok", .bool true)]

/-- The configuration that `handle_set_config` makes of the stored one, or its error. -/
def updateConfig (cfg : CompanionConfig) (input : Json) : Except Json CompanionConfig := do
  let useTts := ((input.get? "use_tts").bind asBool).getD cfg.useTts
  let verbosity ← match textOf input "verbosity" with
    | none => .ok cfg.verbosity
    | some name =>
        match Verbosity.parse name with
        | some verbosity => .ok verbosity
        | none => .error (err ("invalid verbosity: " ++ name))
  let personality ← match textOf input "personality" with
    | none => .ok cfg.personality
    | some text => if text = "" then .error (err "personality cannot be empty") else .ok text
  .ok { useTts, verbosity, personality }

/-- `handle_set_config`. -/
def handleSetConfig (here : Circumstances) (kv : Kv) (input : Json) : Reply :=
  match updateConfig (loadConfig codecs here kv) input with
  | .error result => answer kv result
  | .ok cfg => answer (saveConfig codecs here kv cfg) (configResult cfg)

/-- `handle_get_config`. -/
def handleGetConfig (here : Circumstances) (kv : Kv) : Reply :=
  answer kv (configResult (loadConfig codecs here kv))

/-- A call of the plugin: the name of the tool, if it is UTF-8, and the input as it is decoded. -/
structure Call where
  tool : Option String
  input : Except String Json
  here : Circumstances

/-- `__corvid_invoke`. -/
def invoke (kv : Kv) (call : Call) : Reply :=
  match call.tool with
  | none => answer kv (err "invalid tool name encoding")
  | some tool =>
      match call.input with
      | .error e => answer kv (err ("invalid input: " ++ e))
      | .ok input =>
          match tool with
          | "analyze_file" => handleAnalyzeFile codecs call.here kv input
          | "explain_error" => handleExplainError codecs call.here kv input
          | "hint" => handleHint codecs call.here kv input
          | "quiz" => handleQuiz codecs call.here kv input
          | "celebrate" => handleCelebrate codecs call.here kv input
          | "set_config" => handleSetConfig codecs call.here kv input
          | "get_config" => handleGetConfig codecs call.here kv
          | _ => answer kv (err ("unknown tool: " ++ tool))

/-- The entries after some calls. -/
def kvAfter (calls : List Call) : Kv :=
  calls.foldl (fun kv call => (invoke codecs kv call).kv) fun _ => none

/-- What others see of a call: what it asks and speaks, and its result. -/
def Reply.seen (reply : Reply) : Option LlmRequest × Option String × Option Json :=
  (reply.request, reply.spoken, reply.result)

/-! ## The stored configuration -/

/-- What is stored for the configuration is a text that the plugin has written. -/
def Written (kv : Kv) : Prop :=
  ∀ bytes, kv "config" = some bytes → ∃ value, bytes = codecs.json.toVec value

variable {codecs}

/-- The plugin loads the default configuration. -/
theorem Written.load_config (hlawful : codecs.Lawful) {kv : Kv} (h : Written codecs kv)
    (here : Circumstances) : loadConfig codecs here kv = .default := by
  have hnone : kvGetJson codecs here kv "config" = none := by
    unfold kvGetJson
    cases hkv : kv "config" with
    | none => rfl
    | some bytes =>
        obtain ⟨value, rfl⟩ := h bytes hkv
        dsimp only [codingCompanion]
        rw [envelope_to_vec hlawful, Option.bind_none, ite_self]
  rw [loadConfig, hnone]
  rfl

theorem Written.save_config {kv : Kv} (h : Written codecs kv) (here : Circumstances)
    (cfg : CompanionConfig) : Written codecs (saveConfig codecs here kv cfg) := by
  unfold saveConfig kvSetJson codingCompanion
  dsimp only
  split
  · intro bytes hbytes
    rw [Function.update_self] at hbytes
    exact ⟨cfg.toJson, (Option.some.inj hbytes).symm⟩
  · exact h

/-! ## Calls with one configuration -/

/-- The reply is seen as another one, and leaves the entries as they are or with a configuration. -/
def Alike (codecs : Codecs State) (here : Circumstances) (kv : Kv) (reply other : Reply) : Prop :=
  (reply.kv = kv ∨ ∃ cfg, reply.kv = saveConfig codecs here kv cfg) ∧ reply.seen = other.seen

variable {here : Circumstances} {kv other : Kv}

theorem alike_answer (result : Json) :
    Alike codecs here kv (answer kv result) (answer other result) :=
  ⟨.inl rfl, rfl⟩

theorem alike_trap :
    Alike codecs here kv ⟨kv, none, none, none⟩ ⟨other, none, none, none⟩ :=
  ⟨.inl rfl, rfl⟩

theorem alike_ask (cfg : CompanionConfig) (content : String) (speak : Bool)
    (reply : String → Json) :
    Alike codecs here kv (ask here kv cfg content speak reply)
      (ask here other cfg content speak reply) := by
  unfold ask
  dsimp only
  split
  · exact ⟨.inl rfl, rfl⟩
  · exact ⟨.inl rfl, rfl⟩

variable (h : loadConfig codecs here kv = loadConfig codecs here other) (input : Json)
include h

theorem alike_analyze_file :
    Alike codecs here kv (handleAnalyzeFile codecs here kv input)
      (handleAnalyzeFile codecs here other input) := by
  unfold handleAnalyzeFile
  rw [h]
  cases requiredText input "path" with
  | error result => exact alike_answer result
  | ok path =>
      dsimp only
      cases here.files path with
      | none => exact alike_answer _
      | some contents =>
          dsimp only
          cases truncateFile contents maxFileChars with
          | none => exact alike_trap
          | some truncated => exact alike_ask ..

theorem alike_explain_error :
    Alike codecs here kv (handleExplainError codecs here kv input)
      (handleExplainError codecs here other input) := by
  unfold handleExplainError
  rw [h]
  cases requiredText input "error" with
  | error result => exact alike_answer result
  | ok errorMsg =>
      dsimp only
      split
      · exact alike_trap
      · exact alike_ask ..

theorem alike_hint :
    Alike codecs here kv (handleHint codecs here kv input)
      (handleHint codecs here other input) := by
  unfold handleHint
  rw [h]
  cases requiredText input "context" with
  | error result => exact alike_answer result
  | ok context =>
      dsimp only
      split
      · exact alike_trap
      · exact alike_ask ..

theorem alike_quiz :
    Alike codecs here kv (handleQuiz codecs here kv input)
      (handleQuiz codecs here other input) := by
  unfold handleQuiz
  rw [h]
  cases requiredText input "topic" with
  | error result => exact alike_answer result
  | ok topic =>
      dsimp only
      split
      · exact alike_answer _
      · exact alike_ask ..

theorem alike_celebrate :
    Alike codecs here kv (handleCelebrate codecs here kv input)
      (handleCelebrate codecs here other input) := by
  unfold handleCelebrate
  rw [h]
  cases requiredText input "achievement" with
  | error result => exact alike_answer result
  | ok achievement => exact alike_ask ..

theorem alike_set_config :
    Alike codecs here kv (handleSetConfig codecs here kv input)
      (handleSetConfig codecs here other input) := by
  unfold handleSetConfig
  rw [h]
  cases updateConfig (loadConfig codecs here other) input with
  | error result => exact alike_answer result
  | ok cfg => exact ⟨.inr ⟨cfg, rfl⟩, rfl⟩

omit h

/-- Where the same configuration is loaded, calls are alike. -/
theorem alike_invoke (call : Call)
    (h : loadConfig codecs call.here kv = loadConfig codecs call.here other) :
    Alike codecs call.here kv (invoke codecs kv call) (invoke codecs other call) := by
  unfold invoke
  split
  · exact alike_answer _
  split
  · exact alike_answer _
  split
  · exact alike_analyze_file h _
  · exact alike_explain_error h _
  · exact alike_hint h _
  · exact alike_quiz h _
  · exact alike_celebrate h _
  · exact alike_set_config h _
  · unfold handleGetConfig
    rw [h]
    exact alike_answer _
  · exact alike_answer _

/-! ## Runs -/

theorem Written.invoke {kv : Kv} (h : Written codecs kv) (call : Call) :
    Written codecs (invoke codecs kv call).kv := by
  have halike : Alike codecs call.here kv (CodingCompanion.invoke codecs kv call)
      (CodingCompanion.invoke codecs kv call) := alike_invoke call rfl
  obtain ⟨hkv | ⟨cfg, hkv⟩, -⟩ := halike
  · rwa [hkv]
  · rw [hkv]
    exact h.save_config call.here cfg

theorem written_after (calls : List Call) : Written codecs (kvAfter codecs calls) := by
  have hrun (rest : List Call) {kv : Kv} (h : Written codecs kv) :
      Written codecs
        (rest.foldl (fun kv call => (CodingCompanion.invoke codecs kv call).kv) kv) := by
    induction rest generalizing kv with
    | nil => exact h
    | cons call rest ih => exact ih (h.invoke call)
  exact hrun calls nofun

/-- After any calls, in which the configuration may have been set, a call asks the LLM, speaks and
returns what it does for a plugin without any entries. -/
theorem calls_independent (hlawful : codecs.Lawful) (before : List Call) (call : Call) :
    (invoke codecs (kvAfter codecs before) call).seen =
      (invoke codecs (fun _ => none) call).seen := by
  have hempty : Written codecs fun _ => none := nofun
  have hconfig : loadConfig codecs call.here (kvAfter codecs before) =
      loadConfig codecs call.here fun _ => none := by
    rw [(written_after before).load_config hlawful, hempty.load_config hlawful]
  exact (alike_invoke call hconfig).2

/-- Another configuration. -/
def detailedConfig : CompanionConfig where
  useTts := true
  verbosity := .detailed
  personality := "reviewer"

/-- Its text. -/
def detailedText : List UInt8 :=
  Utf8.bytes ("\x7b\"personality\":\"reviewer\",\"use_tts\":true," ++
    "\"verbosity\":\"detailed\"\x7d")

/-- The serializers of `KeyValue`, with that text. -/
def companionCodecs : Codecs EmotionState :=
  { sampleCodecs with
    json := {
      toVec := fun
        | .object [("personality", .string "reviewer"), ("use_tts", .bool true),
            ("verbosity", .string "detailed")] => detailedText
        | _ => Utf8.bytes "null"
      fromSlice := fun bytes =>
        if bytes = detailedText then some detailedConfig.toJson else none } }

theorem companion_codecs_lawful : companionCodecs.Lawful where
  state_from_slice := sample_codecs_lawful.state_from_slice
  json_head value := by
    unfold companionCodecs
    dsimp only
    split
    · exact ⟨123, _, rfl, by decide⟩
    · exact ⟨110, [117, 108, 108], rfl, by decide⟩
  fixint := sample_codecs_lawful.fixint
  length_lt := sample_codecs_lawful.length_lt

/-- A host that stores, reads no files and has no LLM. -/
def sampleHere : Circumstances where
  allocates _ := true
  stores := true
  files _ := none
  answer _ := .error "LlmChat capability not configured (check CORVID_LLM_API_KEY)"

/-- The configuration is set to another one. -/
def setDetailed : Call where
  tool := some "set_config"
  input := .ok detailedConfig.toJson
  here := sampleHere

/-- The configuration is read. -/
def getConfig : Call where
  tool := some "get_config"
  input := .ok (.object [])
  here := sampleHere

/-- `calls_independent` for a configuration that is set and then read. -/
theorem detailed_not_read :
    (invoke companionCodecs (fun _ => none) setDetailed).result =
        some (configResult detailedConfig) ∧
      (invoke companionCodecs (kvAfter companionCodecs [setDetailed]) getConfig).seen =
        (none, none, some (configResult .default)) := by
  refine ⟨rfl, ?_⟩
  rw [calls_independent companion_codecs_lawful [setDetailed] getConfig]
  rfl

/-! ## Traps -/

/-- A call with what it needs includes a file that the host reads to it. -/
inductive Shows (call : Call) (contents : String) : Prop where
  | analyzeFile {input : Json} {path : String} (htool : call.tool = some "analyze_file")
      (hinput : call.input = .ok input) (hpath : requiredText input "path" = .ok path)
      (hfile : call.here.files path = some contents)
  | explainError {input : Json} {error path : String} (htool : call.tool = some "explain_error")
      (hinput : call.input = .ok input) (herror : requiredText input "error" = .ok error)
      (hpath : textOf input "file" = some path) (hfile : call.here.files path = some contents)
  | hint {input : Json} {context path : String} (htool : call.tool = some "hint")
      (hinput : call.input = .ok input) (hcontext : requiredText input "context" = .ok context)
      (hpath : textOf input "file" = some path) (hfile : call.here.files path = some contents)

/-- `truncate_file` panics for a long text in which a character goes across the cut. -/
theorem truncate_file_eq_none {content : String} {maxChars : Nat} :
    truncateFile content maxChars = none ↔
      maxChars < Utf8.size content.toList ∧ ¬ Utf8.IsBoundary maxChars content.toList := by
  rw [← Utf8.is_some_slice_to_iff, truncateFile]
  by_cases hsize : Utf8.size content.toList ≤ maxChars
  · simp [hsize]
  · simp [hsize, Nat.lt_of_not_le hsize]

theorem ask_result_ne_none (cfg : CompanionConfig) (content : String) (speak : Bool)
    (reply : String → Json) : (ask here kv cfg content speak reply).result ≠ none := by
  unfold ask
  dsimp only
  split
  · exact Option.some_ne_none _
  · exact Option.some_ne_none _

/-- The file at a path, if there is one, cannot be shown. -/
def FileTraps (here : Circumstances) (file : Option String) : Prop :=
  ∃ path contents, file = some path ∧ here.files path = some contents ∧
    truncateFile contents maxFileChars = none

theorem file_context_eq_none {input : Json} {render : String → String → String} :
    fileContext here input render = none ↔ FileTraps here (textOf input "file") := by
  unfold fileContext FileTraps
  cases hpath : textOf input "file" with
  | none => simp
  | some path =>
      cases hfile : here.files path with
      | none => simp [hfile]
      | some contents => simp [hfile]

theorem analyze_file_result {input : Json} :
    (handleAnalyzeFile codecs here kv input).result = none ↔
      FileTraps here (requiredText input "path").toOption := by
  unfold handleAnalyzeFile FileTraps
  cases requiredText input "path" with
  | error result => simp [answer, Except.toOption]
  | ok path =>
      dsimp only
      cases hfile : here.files path with
      | none => simp [answer, hfile, Except.toOption]
      | some contents =>
          dsimp only
          cases htruncated : truncateFile contents maxFileChars with
          | none => simp [hfile, htruncated, Except.toOption]
          | some truncated =>
              simp [hfile, htruncated, ask_result_ne_none, Except.toOption]

theorem explain_error_result {input : Json} :
    (handleExplainError codecs here kv input).result = none ↔
      (∃ error, requiredText input "error" = .ok error) ∧
        FileTraps here (textOf input "file") := by
  unfold handleExplainError
  cases requiredText input "error" with
  | error result => simp [answer]
  | ok error =>
      dsimp only
      split
      next hfile =>
        exact ⟨fun _ => ⟨⟨error, rfl⟩, file_context_eq_none.mp hfile⟩, fun _ => rfl⟩
      next file hfile =>
        exact ⟨fun hresult => absurd hresult (ask_result_ne_none _ _ _ _),
          fun htraps => nomatch hfile.symm.trans (file_context_eq_none.mpr htraps.2)⟩

theorem hint_result {input : Json} :
    (handleHint codecs here kv input).result = none ↔
      (∃ context, requiredText input "context" = .ok context) ∧
        FileTraps here (textOf input "file") := by
  unfold handleHint
  cases requiredText input "context" with
  | error result => simp [answer]
  | ok context =>
      dsimp only
      split
      next hfile =>
        exact ⟨fun _ => ⟨⟨context, rfl⟩, file_context_eq_none.mp hfile⟩, fun _ => rfl⟩
      next file hfile =>
        exact ⟨fun hresult => absurd hresult (ask_result_ne_none _ _ _ _),
          fun htraps => nomatch hfile.symm.trans (file_context_eq_none.mpr htraps.2)⟩

theorem quiz_result {input : Json} : (handleQuiz codecs here kv input).result ≠ none := by
  unfold handleQuiz
  cases requiredText input "topic" with
  | error result => exact Option.some_ne_none _
  | ok topic =>
      dsimp only
      split
      · exact Option.some_ne_none _
      · exact ask_result_ne_none _ _ _ _

theorem celebrate_result {input : Json} :
    (handleCelebrate codecs here kv input).result ≠ none := by
  unfold handleCelebrate
  cases requiredText input "achievement" with
  | error result => exact Option.some_ne_none _
  | ok achievement => exact ask_result_ne_none _ _ _ _

theorem set_config_result {input : Json} :
    (handleSetConfig codecs here kv input).result ≠ none := by
  unfold handleSetConfig
  split
  · exact Option.some_ne_none _
  · exact Option.some_ne_none _

variable (codecs)

/-- A call traps exactly if it includes a file of more than 8000 bytes in which a character goes
across byte 8000. -/
theorem traps_iff (kv : Kv) (call : Call) :
    (invoke codecs kv call).result = none ↔
      ∃ contents, Shows call contents ∧ maxFileChars < Utf8.size contents.toList ∧
        ¬ Utf8.IsBoundary maxFileChars contents.toList := by
  simp only [← truncate_file_eq_none]
  constructor
  · intro h
    unfold invoke at h
    split at h
    next => cases h
    next tool htool =>
      split at h
      next => cases h
      next input hinput =>
        split at h
        next =>
          obtain ⟨path, contents, hpath, hfile, htruncated⟩ := analyze_file_result.mp h
          exact ⟨contents, .analyzeFile htool hinput (to_option_eq_some.mp hpath) hfile,
            htruncated⟩
        next =>
          obtain ⟨⟨error, herror⟩, path, contents, hpath, hfile, htruncated⟩ :=
            explain_error_result.mp h
          exact ⟨contents, .explainError htool hinput herror hpath hfile, htruncated⟩
        next =>
          obtain ⟨⟨context, hcontext⟩, path, contents, hpath, hfile, htruncated⟩ :=
            hint_result.mp h
          exact ⟨contents, .hint htool hinput hcontext hpath hfile, htruncated⟩
        next => exact absurd h quiz_result
        next => exact absurd h celebrate_result
        next => exact absurd h set_config_result
        next => cases h
        next => cases h
  · rintro ⟨contents, hshows, htruncated⟩
    unfold invoke
    cases hshows with
    | analyzeFile htool hinput hpath hfile =>
        rw [htool, hinput]
        exact analyze_file_result.mpr
          ⟨_, contents, to_option_eq_some.mpr hpath, hfile, htruncated⟩
    | explainError htool hinput herror hpath hfile =>
        rw [htool, hinput]
        exact explain_error_result.mpr ⟨⟨_, herror⟩, _, contents, hpath, hfile, htruncated⟩
    | hint htool hinput hcontext hpath hfile =>
        rw [htool, hinput]
        exact hint_result.mpr ⟨⟨_, hcontext⟩, _, contents, hpath, hfile, htruncated⟩

end CorvidNano.Plugins.CodingCompanion
