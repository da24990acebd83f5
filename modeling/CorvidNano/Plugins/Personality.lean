import CorvidNano.Bridge.PluginList
import CorvidNano.Library.Text
import CorvidNano.Library.Transcript
import CorvidNano.Plugins.KeyValue

/-!
# The `personality` plugin

Its tools and its event handler, over a store that returns the last value stored under each key.

`history_window` says that the history of a session is the last twenty exchanges of its transcript,
and `requests_sound` what the LLM is asked with it. `endpoint_of_run` says where the requests
go: a base URL that was set for one provider is used for the next one too. `results_hide_key` says
that nothing but the header of a request depends on the API key.
-/

namespace CorvidNano.Plugins.Personality

open Bridge.PluginList (strings)
open Bridge.ToolInput (asStr)
open KeyValue (EmotionState neutral)
open Sdk Transcript

/-! ## Data -/

/-- `Provider`. -/
inductive Provider where
  | claude
  | openAI
  | custom
  deriving DecidableEq

/-- The name of a provider in lower case. -/
def Provider.lowercase : Provider → String
  | .claude => "claude"
  | .openAI => "openai"
  | .custom => "custom"

/-- The provider that `personality.configure` takes a text for. -/
def Provider.parse : String → Option Provider
  | "claude" => some .claude
  | "openai" => some .openAI
  | "custom" => some .custom
  | _ => none

/-- `PersonalityConfig`. -/
structure PersonalityConfig where
  provider : Provider
  model : String
  apiKey : String
  baseUrl : Option String
  deriving DecidableEq

/-- `PersonalityConfig::default`. -/
def PersonalityConfig.default : PersonalityConfig where
  provider := .claude
  model := "claude-haiku-4-5-20251001"
  apiKey := ""
  baseUrl := none

/-- `Persona`. -/
structure Persona where
  name : String
  traits : List String
  speechStyle : String
  tone : String
  deriving DecidableEq

/-- `Persona::default`. -/
def Persona.default : Persona where
  name := "Kira"
  traits := ["curious", "playful", "helpful"]
  speechStyle := "casual and warm"
  tone := "encouraging"

/-- `Message`. -/
structure Message where
  role : String
  content : String
  deriving DecidableEq

/-- `detect_emotion`, with `to_lowercase` of the standard library. -/
def detectEmotion (toLowercase : String → String) (text : String) : EmotionState :=
  let lower := toLowercase text
  let mentions (patterns : List String) : Bool :=
    patterns.any fun pattern => Text.contains pattern lower
  if mentions ["haha", "lol", ":)", "😄", "😂"] then ⟨"happy", 80⟩
  else if mentions ["wow", "ooh", "amazing", "!!!", "😮", "🤩"] then ⟨"excited", 90⟩
  else if mentions ["hmm", "let me think", "interesting question", "🤔"] then ⟨"thinking", 60⟩
  else if mentions ["unfortunately", "sorry to hear", "sigh", "😔"] then ⟨"sad", 60⟩
  else if mentions ["careful", "watch out", "warning", "⚠️"] then ⟨"cautious", 70⟩
  else neutral

/-- `build_system_prompt`. -/
def buildSystemPrompt (persona : Persona) : String :=
  "You are " ++ persona.name ++ ". Your personality traits are: " ++
    ", ".intercalate persona.traits ++ ". Your speech style is: " ++ persona.speechStyle ++
    ". Your tone is: " ++ persona.tone ++ ". Stay in character. Be concise but warm."

/-! ## The store -/

/-- What is stored under a key. -/
inductive Stored where
  | config (config : PersonalityConfig)
  | persona (persona : Persona)
  | emotion (emotion : EmotionState)
  | history (messages : List Message)

/-- The last value that was stored under each key. -/
abbrev Kv := String → Option Stored

/-- A store in which nothing has been stored. -/
def Kv.empty : Kv := fun _ => none

/-- `kv_set`, where `stores` says under which keys the host stores. The callers ignore whether it
did. -/
def kvSet (stores : String → Bool) (kv : Kv) (key : String) (value : Stored) : Kv :=
  if stores key then fun other => if other = key then some value else kv other else kv

/-- `load_config`. -/
def loadConfig (kv : Kv) : PersonalityConfig :=
  match kv "config" with
  | some (.config config) => config
  | _ => .default

/-- `save_config`. -/
def saveConfig (stores : String → Bool) (kv : Kv) (config : PersonalityConfig) : Kv :=
  kvSet stores kv "config" (.config config)

/-- `load_persona`. -/
def loadPersona (kv : Kv) : Persona :=
  match kv "persona" with
  | some (.persona persona) => persona
  | _ => .default

/-- `save_persona`. -/
def savePersona (stores : String → Bool) (kv : Kv) (persona : Persona) : Kv :=
  kvSet stores kv "persona" (.persona persona)

/-- `load_emotion`. -/
def loadEmotion (kv : Kv) : EmotionState :=
  match kv "emotion" with
  | some (.emotion emotion) => emotion
  | _ => neutral

/-- `save_emotion`. -/
def saveEmotion (stores : String → Bool) (kv : Kv) (emotion : EmotionState) : Kv :=
  kvSet stores kv "emotion" (.emotion emotion)

/-- The key of a session's history. -/
def historyKey (sessionId : String) : String := "history:" ++ sessionId

/-- `load_history`. -/
def loadHistory (kv : Kv) (sessionId : String) : List Message :=
  match kv (historyKey sessionId) with
  | some (.history messages) => messages
  | _ => []

/-- `save_history`. -/
def saveHistory (stores : String → Bool) (kv : Kv) (sessionId : String)
    (history : List Message) : Kv :=
  kvSet stores kv (historyKey sessionId) (.history history)

/-! ## Asking the LLM -/

/-- What the plugin posts through `host_http_post`. -/
structure HttpPost where
  url : String
  headers : List (String × String)
  body : Json

/-- What is outside of the plugin: `to_lowercase`, and how it reads the host's response, a body as
text and as JSON, and writes JSON. -/
structure Environment where
  toLowercase : String → String
  httpResponse : List UInt8 → Except String (Nat × List UInt8)
  lossyText : List UInt8 → String
  parseJson : List UInt8 → Except String Json
  jsonText : Json → String

variable (env : Environment)

/-- A message in a request. -/
def Message.toJson (message : Message) : Json :=
  .object [("content", .string message.content), ("role", .string message.role)]

/-- The value at a name in an object, null elsewhere. -/
def member (value : Json) (name : String) : Json := (value.get? name).getD .null

/-- The first element of an array, null elsewhere. -/
def first : Json → Json
  | .array (element :: _) => element
  | _ => .null

/-- What the plugin makes of the response to its post. -/
def readAnswer (provider : String) (textOf : Json → Json) (posted : Except String (List UInt8)) :
    Except String String := do
  let respBytes ← posted
  let (status, body) ←
    (env.httpResponse respBytes).mapError fun e => "parse http response: " ++ e
  if status ≠ 200 then
    .error (provider ++ " API error " ++ toString status ++ ": " ++ env.lossyText body)
  else do
    let json ← (env.parseJson body).mapError fun e => "parse json: " ++ e
    match asStr (textOf json) with
    | some text => .ok text
    | none => .error ("unexpected " ++ provider ++ " response shape: " ++ env.jsonText json)

/-- The request of `call_claude`. -/
def claudeRequest (cfg : PersonalityConfig) (system : String) (history : List Message)
    (userMessage : String) : HttpPost where
  url := cfg.baseUrl.getD "https://api.anthropic.com" ++ "/v1/messages"
  headers := [
    ("Content-Type", "application/json"),
    ("x-api-key", cfg.apiKey),
    ("anthropic-version", "2023-06-01")]
  body := .object [
    ("max_tokens", .number 1024 0),
    ("messages", .array ((history ++ [Message.mk "user" userMessage]).map Message.toJson)),
    ("model", .string cfg.model),
    ("system", .string system)]

/-- The request of `call_openai`. -/
def openaiRequest (cfg : PersonalityConfig) (system : String) (history : List Message)
    (userMessage : String) : HttpPost where
  url := cfg.baseUrl.getD "https://api.openai.com" ++ "/v1/chat/completions"
  headers := [
    ("Content-Type", "application/json"),
    ("Authorization", "Bearer " ++ cfg.apiKey)]
  body := .object [
    ("max_tokens", .number 1024 0),
    ("messages", .array
      ((Message.mk "system" system :: history ++ [Message.mk "user" userMessage]).map
        Message.toJson)),
    ("model", .string cfg.model)]

/-- `call_llm`: the request, and what is made of the response. -/
def callLlm (cfg : PersonalityConfig) (system : String) (history : List Message)
    (userMessage : String) : HttpPost × (Except String (List UInt8) → Except String String) :=
  match cfg.provider with
  | .claude =>
      (claudeRequest cfg system history userMessage,
        readAnswer env "Claude" fun json => member (first (member json "content")) "text")
  | .openAI | .custom =>
      (openaiRequest cfg system history userMessage,
        readAnswer env "OpenAI" fun json =>
          member (member (first (member json "choices")) "message") "content")

/-! ## The tools -/

/-- What a tool leaves in the store, what it posts, and its result: the value whose text the tool
returns. -/
structure Reply where
  kv : Kv
  request : Option HttpPost
  result : Except PluginError Json

/-- The error of a tool, which posts nothing and stores nothing. -/
def fail (kv : Kv) (error : PluginError) : Reply := ⟨kv, none, .error error⟩

/-- `ChatTool` with a message, for a session, and what the host answers to the post. -/
def chat (posted : Except String (List UInt8)) (stores : String → Bool) (kv : Kv)
    (sessionId message : String) : Reply :=
  let cfg := loadConfig kv
  if cfg.apiKey = "" ∧ cfg.provider ≠ .custom then
    fail kv (.init "API key not set. Call personality.configure first.")
  else
    let persona := loadPersona kv
    let system := buildSystemPrompt persona
    let history := loadHistory kv sessionId
    let (request, answerOf) := callLlm env cfg system history message
    match answerOf posted with
    | .error e => ⟨kv, some request, .error (.exec e)⟩
    | .ok response =>
        let emotion := detectEmotion env.toLowercase response
        let newHistory := keepLast 40 (history ++ [⟨"user", message⟩, ⟨"assistant", response⟩])
        { kv := saveEmotion stores (saveHistory stores kv sessionId newHistory) emotion
          request := some request
          result := .ok (.object [
            ("emotion", .string emotion.current),
            ("emotion_intensity", .number emotion.intensity.toNat 0),
            ("persona", .string persona.name),
            ("response", .string response)]) }

/-- `ChatTool`. -/
def chatTool (posted : Except String (List UInt8)) (stores : String → Bool) (kv : Kv)
    (input : Json) : Reply :=
  match asStr (member input "message") with
  | none => fail kv (.badInput "message is required")
  | some message =>
      let sessionId := (asStr (member input "session_id")).getD "default"
      chat env posted stores kv sessionId message

/-- The configuration that `ConfigureTool` makes of the stored one. -/
def updateConfig (stored : PersonalityConfig) (provider : Provider) (apiKey : String)
    (input : Json) : PersonalityConfig where
  provider
  apiKey
  model := (asStr (member input "model")).getD stored.model
  baseUrl := (asStr (member input "base_url")).or stored.baseUrl

/-- `ConfigureTool`. -/
def configureTool (stores : String → Bool) (kv : Kv) (input : Json) : Reply :=
  match asStr (member input "provider") with
  | none => fail kv (.badInput "provider is required")
  | some providerStr =>
      match asStr (member input "api_key") with
      | none => fail kv (.badInput "api_key is required")
      | some apiKey =>
          match Provider.parse providerStr with
          | none =>
              fail kv (.badInput
                ("unknown provider: " ++ providerStr ++ ". Use: claude, openai, custom"))
          | some provider =>
              let cfg := updateConfig (loadConfig kv) provider apiKey input
              if cfg.provider = .custom ∧ cfg.baseUrl = none then
                fail kv (.badInput "base_url is required for custom provider")
              else
                { kv := saveConfig stores kv cfg
                  request := none
                  result := .ok (.object [
                    ("model", .string cfg.model),
                    ("ok", .bool true),
                    ("provider", .string providerStr)]) }

/-- `SetPersonaTool`. -/
def setPersonaTool (stores : String → Bool) (kv : Kv) (input : Json) : Reply :=
  match asStr (member input "name") with
  | none => fail kv (.badInput "name is required")
  | some name =>
      let stored := loadPersona kv
      let persona : Persona := {
        name
        traits :=
          match member input "traits" with
          | .array traits => traits.filterMap asStr
          | _ => stored.traits
        speechStyle := (asStr (member input "speech_style")).getD stored.speechStyle
        tone := (asStr (member input "tone")).getD stored.tone }
      { kv := savePersona stores kv persona
        request := none
        result := .ok (.object [
          ("ok", .bool true),
          ("persona", .object [
            ("name", .string persona.name),
            ("traits", strings persona.traits)])]) }

/-- `GetStateTool`. -/
def getStateTool (kv : Kv) : Reply :=
  let emotion := loadEmotion kv
  let persona := loadPersona kv
  let cfg := loadConfig kv
  { kv
    request := none
    result := .ok (.object [
      ("config", .object [
        ("has_api_key", .bool (cfg.apiKey != "")),
        ("model", .string cfg.model),
        ("provider", .string cfg.provider.lowercase)]),
      ("emotion", .object [
        ("current", .string emotion.current),
        ("intensity", .number emotion.intensity.toNat 0)]),
      ("persona", .object [
        ("name", .string persona.name),
        ("speech_style", .string persona.speechStyle),
        ("tone", .string persona.tone),
        ("traits", strings persona.traits)])]) }

/-- What the host has the plugin do: run a tool on an input, or handle an agent message. The host
ignores the other events. -/
inductive Work where
  | tool (name : String) (input : Json)
  | agentMessage (content : Json)

/-- A piece of work, with what the host answers if the plugin posts, and under which keys it
stores meanwhile. -/
structure Event where
  work : Work
  posted : Except String (List UInt8)
  stores : String → Bool

/-- The tools of the plugin by name. -/
def invoke (kv : Kv) (event : Event) (toolName : String) (input : Json) : Reply :=
  match toolName with
  | "personality.chat" => chatTool env event.posted event.stores kv input
  | "personality.configure" => configureTool event.stores kv input
  | "personality.set-persona" => setPersonaTool event.stores kv input
  | "personality.get-state" => getStateTool kv
  | toolName => fail kv (.badInput ("unknown tool: " ++ toolName))

/-- `on_event` for an agent message. Nobody gets the result of the chat. -/
def onEvent (kv : Kv) (event : Event) (content : Json) : Reply :=
  match (content.get? "text").bind asStr with
  | none => ⟨kv, none, .ok .null⟩
  | some msg =>
      let input := .object [("message", .string msg), ("session_id", .string "agent-event")]
      { chatTool env event.posted event.stores kv input with result := .ok .null }

/-- What a piece of work comes to. -/
def handle (kv : Kv) (event : Event) : Reply :=
  match event.work with
  | .tool name input => invoke env kv event name input
  | .agentMessage content => onEvent env kv event content

/-- The store after a piece of work. -/
def step (kv : Kv) (event : Event) : Kv := (handle env kv event).kv

/-! ## The transcript -/

/-- The session and the message of a chat. -/
def chatOf (event : Event) : Option (String × String) :=
  match event.work with
  | .tool "personality.chat" input =>
      (asStr (member input "message")).map fun message =>
        ((asStr (member input "session_id")).getD "default", message)
  | .tool _ _ => none
  | .agentMessage content => ((content.get? "text").bind asStr).map fun msg => ("agent-event", msg)

/-- What the LLM answers to a chat, if it is asked and answers. -/
def answerTo (kv : Kv) (posted : Except String (List UInt8)) (sessionId message : String) :
    Option String :=
  let cfg := loadConfig kv
  if cfg.apiKey = "" ∧ cfg.provider ≠ .custom then none
  else
    ((callLlm env cfg (buildSystemPrompt (loadPersona kv)) (loadHistory kv sessionId) message).2
      posted).toOption

/-- What a piece of work adds to the transcript of a session: an answered and stored exchange. -/
def spoken (kv : Kv) (event : Event) (sessionId : String) : List Message :=
  match chatOf event with
  | none => []
  | some (session, message) =>
      match answerTo env kv event.posted session message with
      | none => []
      | some response =>
          if session = sessionId ∧ event.stores (historyKey session) = true then
            [⟨"user", message⟩, ⟨"assistant", response⟩]
          else []

/-- The exchanges of a session in a run. -/
def transcript (kv : Kv) : List Event → String → List Message
  | [], _ => []
  | event :: rest, sessionId =>
      spoken env kv event sessionId ++ transcript (step env kv event) rest sessionId

/-! ## What is stored -/

theorem kv_set_apply (stores : String → Bool) (kv : Kv) (key : String) (value : Stored)
    (other : String) :
    kvSet stores kv key value other =
      if other = key ∧ stores key = true then some value else kv other := by
  unfold kvSet
  by_cases hstores : stores key = true
  · simp only [hstores, if_true, and_true]
  · simp [hstores]

theorem history_key_inj {first second : String} :
    historyKey first = historyKey second ↔ first = second := by
  unfold historyKey
  rw [String.append_right_inj]

/-- No history is stored under a key of the other values. -/
theorem history_key_ne {key : String} (h : key ∈ ["config", "persona", "emotion"])
    (sessionId : String) : historyKey sessionId ≠ key := by
  intro heq
  have hfirst : (historyKey sessionId).toList.head? = some 'h' := by
    rw [historyKey, String.toList_append]
    rfl
  rw [heq] at hfirst
  revert h
  simp only [List.mem_cons, List.not_mem_nil, or_false]
  rintro (rfl | rfl | rfl)
  all_goals exact absurd hfirst (by decide)

/-- What is stored under another key leaves the histories as they are. -/
theorem load_history_set {key : String} (h : key ∈ ["config", "persona", "emotion"])
    (stores : String → Bool) (kv : Kv) (value : Stored) (sessionId : String) :
    loadHistory (kvSet stores kv key value) sessionId = loadHistory kv sessionId := by
  unfold loadHistory
  rw [kv_set_apply, if_neg fun hkey => history_key_ne h sessionId hkey.1]

theorem load_save_history (stores : String → Bool) (kv : Kv) (session sessionId : String)
    (history : List Message) :
    loadHistory (saveHistory stores kv session history) sessionId =
      if session = sessionId ∧ stores (historyKey session) = true then history
      else loadHistory kv sessionId := by
  unfold loadHistory saveHistory
  simp only [kv_set_apply, history_key_inj, @eq_comm _ sessionId]
  by_cases h : session = sessionId ∧ stores (historyKey session) = true
  · rw [if_pos h, if_pos h]
  · rw [if_neg h, if_neg h]

/-! ## A piece of work -/

variable {env : Environment} {kv : Kv} {event : Event}

/-- A chat, apart from who gets its result. -/
theorem handle_chat {sessionId message : String} (h : chatOf event = some (sessionId, message)) :
    (handle env kv event).kv = (chat env event.posted event.stores kv sessionId message).kv ∧
      (handle env kv event).request =
        (chat env event.posted event.stores kv sessionId message).request := by
  unfold chatOf at h
  unfold handle
  split at h
  next input hwork =>
    obtain ⟨text, htext, heq⟩ := Option.map_eq_some_iff.mp h
    cases heq
    rw [hwork]
    simp only [invoke, chatTool, htext, and_self]
  next => cases h
  next content hwork =>
    obtain ⟨text, htext, heq⟩ := Option.map_eq_some_iff.mp h
    cases heq
    rw [hwork]
    simp only [onEvent, htext]
    exact ⟨rfl, rfl⟩

/-- What chats leave in the store. -/
theorem chat_kv (posted : Except String (List UInt8)) (stores : String → Bool)
    (sessionId message : String) :
    (chat env posted stores kv sessionId message).kv =
      match answerTo env kv posted sessionId message with
      | none => kv
      | some response =>
          saveEmotion stores
            (saveHistory stores kv sessionId (keepLast 40 (loadHistory kv sessionId ++
              [⟨"user", message⟩, ⟨"assistant", response⟩])))
            (detectEmotion env.toLowercase response) := by
  unfold chat answerTo
  by_cases hkey : (loadConfig kv).apiKey = "" ∧ (loadConfig kv).provider ≠ .custom
  · rw [if_pos hkey, if_pos hkey]
    rfl
  · rw [if_neg hkey, if_neg hkey]
    dsimp only
    cases (callLlm env (loadConfig kv) (buildSystemPrompt (loadPersona kv))
      (loadHistory kv sessionId) message).2 posted with
    | error e => rfl
    | ok response => rfl

/-- The other work leaves the histories as they are, and posts nothing. -/
theorem handle_other (h : chatOf event = none) (sessionId : String) :
    loadHistory (handle env kv event).kv sessionId = loadHistory kv sessionId ∧
      (handle env kv event).request = none := by
  unfold chatOf at h
  unfold handle
  cases hwork : event.work with
  | agentMessage content =>
      rw [hwork] at h
      dsimp only
      rw [onEvent, Option.map_eq_none_iff.mp h]
      exact ⟨rfl, rfl⟩
  | tool name input =>
      rw [hwork] at h
      dsimp only at h ⊢
      unfold invoke
      split
      next =>
        rw [chatTool, Option.map_eq_none_iff.mp h]
        exact ⟨rfl, rfl⟩
      next =>
        unfold configureTool
        split
        next => exact ⟨rfl, rfl⟩
        next =>
          split
          next => exact ⟨rfl, rfl⟩
          next =>
            split
            next => exact ⟨rfl, rfl⟩
            next =>
              dsimp only
              split
              next => exact ⟨rfl, rfl⟩
              next => exact ⟨load_history_set (by decide) event.stores kv _ sessionId, rfl⟩
      next =>
        unfold setPersonaTool
        split
        next => exact ⟨rfl, rfl⟩
        next => exact ⟨load_history_set (by decide) event.stores kv _ sessionId, rfl⟩
      next => exact ⟨rfl, rfl⟩
      next => exact ⟨rfl, rfl⟩

/-! ## Histories -/

/-- What is spoken is added to the history, of which the last forty entries are kept. -/
theorem load_history_step (env : Environment) (kv : Kv) (event : Event) {sessionId : String}
    (h : (loadHistory kv sessionId).length ≤ 40) :
    loadHistory (step env kv event) sessionId =
      keepLast 40 (loadHistory kv sessionId ++ spoken env kv event sessionId) := by
  have hsame : keepLast 40 (loadHistory kv sessionId ++ []) = loadHistory kv sessionId := by
    rw [List.append_nil, keep_last_of_le h]
  unfold step spoken
  cases hchat : chatOf event with
  | none =>
      rw [(handle_other hchat sessionId).1]
      exact hsame.symm
  | some chat =>
      obtain ⟨session, message⟩ := chat
      rw [(handle_chat hchat).1, chat_kv]
      dsimp only
      cases answerTo env kv event.posted session message with
      | none => exact hsame.symm
      | some response =>
          dsimp only
          unfold saveEmotion
          rw [load_history_set (by decide), load_save_history]
          by_cases hstored : session = sessionId ∧ event.stores (historyKey session) = true
          · rw [if_pos hstored, if_pos hstored, hstored.1]
          · rw [if_neg hstored, if_neg hstored]
            exact hsame.symm

theorem load_history_run (events : List Event) {kv : Kv} {sessionId : String}
    (h : (loadHistory kv sessionId).length ≤ 40) :
    loadHistory (events.foldl (step env) kv) sessionId =
      keepLast 40 (loadHistory kv sessionId ++ transcript env kv events sessionId) := by
  induction events generalizing kv with
  | nil =>
      rw [transcript, List.append_nil, keep_last_of_le h]
      rfl
  | cons event rest ih =>
      have hstep := load_history_step env kv event h
      rw [List.foldl_cons, ih (by rw [hstep]; exact length_keep_last_le 40 _), hstep,
        keep_last_append, List.append_assoc]
      rfl

/-- In every run the history of a session is the last forty entries of its transcript. -/
theorem history_window (env : Environment) (events : List Event) (sessionId : String) :
    loadHistory (events.foldl (step env) Kv.empty) sessionId =
      keepLast 40 (transcript env Kv.empty events sessionId) := by
  rw [load_history_run events (Nat.zero_le _)]
  rfl

/-- In a transcript the user and the assistant take turns. -/
theorem transcript_turns (env : Environment) (events : List Event) (kv : Kv) (sessionId : String) :
    ∃ turns, (transcript env kv events sessionId).length = 2 * turns ∧
      Alternates "user" "assistant" ((transcript env kv events sessionId).map Message.role) := by
  induction events generalizing kv with
  | nil => exact ⟨0, rfl, trivial⟩
  | cons event rest ih =>
      obtain ⟨turns, hlength, hturns⟩ := ih (step env kv event)
      have hspoken : spoken env kv event sessionId = [] ∨
          ∃ message response, spoken env kv event sessionId =
            [⟨"user", message⟩, ⟨"assistant", response⟩] := by
        unfold spoken
        split
        next => exact .inl rfl
        next =>
          split
          next => exact .inl rfl
          next =>
            split
            next => exact .inr ⟨_, _, rfl⟩
            next => exact .inl rfl
      rw [transcript]
      rcases hspoken with hspoken | ⟨message, response, hspoken⟩
      · rw [hspoken]
        exact ⟨turns, hlength, hturns⟩
      · rw [hspoken]
        refine ⟨turns + 1, ?_, rfl, rfl, hturns⟩
        rw [List.length_append, hlength, List.length_cons, List.length_singleton]
        omega

/-! ## Requests -/

/-- A request with a history and a message after it, behind at most a system prompt. The user and
the assistant take turns in it, and the user begins. -/
structure SoundRequest (history : List Message) (message : String) (request : HttpPost) : Prop where
  length_le : history.length ≤ 40
  turns : Alternates "user" "assistant" ((history ++ [Message.mk "user" message]).map Message.role)
  messages : ∃ lead, (∀ entry ∈ lead, entry.role = "system") ∧
    request.body.get? "messages" =
      some (.array ((lead ++ history ++ [Message.mk "user" message]).map Message.toJson))

/-- A request is that of a chat, with the stored configuration and history. -/
theorem of_request {request : HttpPost} (h : (handle env kv event).request = some request) :
    ∃ sessionId message, chatOf event = some (sessionId, message) ∧
      request = (callLlm env (loadConfig kv) (buildSystemPrompt (loadPersona kv))
        (loadHistory kv sessionId) message).1 := by
  cases hchat : chatOf event with
  | none =>
      rw [(handle_other hchat "").2] at h
      cases h
  | some chat =>
      obtain ⟨sessionId, message⟩ := chat
      refine ⟨sessionId, message, rfl, ?_⟩
      rw [(handle_chat hchat).2, Personality.chat] at h
      dsimp only at h
      split at h
      · cases h
      · split at h <;> exact (Option.some.inj h).symm

theorem messages_of_call (cfg : PersonalityConfig) (system : String) (history : List Message)
    (message : String) :
    ∃ lead, (∀ entry ∈ lead, entry.role = "system") ∧
      (callLlm env cfg system history message).1.body.get? "messages" =
        some (.array ((lead ++ history ++ [Message.mk "user" message]).map Message.toJson)) := by
  unfold callLlm
  cases cfg.provider with
  | claude => exact ⟨[], fun _ hmem => absurd hmem List.not_mem_nil, rfl⟩
  | openAI | custom =>
      refine ⟨[⟨"system", system⟩], fun entry hmem => ?_, rfl⟩
      rw [List.mem_singleton.mp hmem]

/-- In every run the LLM is asked with the last twenty exchanges of the session and the message,
in which the user and the assistant take turns. -/
theorem requests_sound (env : Environment) (events : List Event) (event : Event)
    {request : HttpPost}
    (h : (handle env (events.foldl (step env) Kv.empty) event).request = some request) :
    ∃ sessionId message, chatOf event = some (sessionId, message) ∧
      SoundRequest (keepLast 40 (transcript env Kv.empty events sessionId)) message request := by
  obtain ⟨sessionId, message, hchat, rfl⟩ := of_request h
  obtain ⟨turns, hlength, hturns⟩ := transcript_turns env events Kv.empty sessionId
  refine ⟨sessionId, message, hchat, length_keep_last_le 40 _, ?_, ?_⟩
  · obtain ⟨kept, hkept⟩ : ∃ kept, (keepLast 40 (transcript env Kv.empty events sessionId)).length =
        2 * kept := by
      refine ⟨turns - (turns - 20), ?_⟩
      rw [keepLast, List.length_drop, hlength]
      omega
    have hwindow : Alternates "user" "assistant"
        ((keepLast 40 (transcript env Kv.empty events sessionId)).map Message.role) := by
      have hmap := hturns.keep_last (by rw [List.length_map, hlength]) 20
      rwa [keepLast, List.length_map, ← List.map_drop] at hmap
    rw [List.map_append, alternates_append, List.length_map, hkept, speaker_two_mul]
    exact ⟨hwindow, rfl, trivial⟩
  · rw [load_history_run events (Nat.zero_le _)]
    exact messages_of_call _ _ _ _

/-- The body of an answer of Claude. -/
def sampleAnswer : String := "\x7b\"content\":[\x7b\"text\":\"lol\"\x7d]\x7d"

/-- How the plugin reads that answer. -/
def sampleEnvironment : Environment where
  toLowercase := id
  httpResponse
    | 0x92 :: 0xcc :: status :: 0xdc :: _ :: _ :: body => .ok (status.toNat, body)
    | _ => .error "invalid type"
  lossyText _ := ""
  parseJson body :=
    if body = Utf8.bytes sampleAnswer then
      .ok (.object [("content", .array [.object [("text", .string "lol")]])])
    else .error "expected value"
  jsonText _ := ""

/-- A tool that runs on an input, and the answer if it posts. -/
def sampleEvent (name : String) (input : List (String × Json)) : Event where
  work := .tool name (.object input)
  posted := .ok ([0x92, 0xcc, 200, 0xdc, 0, 28] ++ Utf8.bytes sampleAnswer)
  stores _ := true

/-- A custom provider, then Claude, and a chat. -/
def sampleEvents : List Event := [
  sampleEvent "personality.configure" [
    ("api_key", .string ""),
    ("base_url", .string "http://localhost:11434"),
    ("provider", .string "custom")],
  sampleEvent "personality.configure" [
    ("api_key", .string "sk-test"),
    ("provider", .string "claude")],
  sampleEvent "personality.chat" [("message", .string "hello")]]

/-- Another chat. -/
def sampleChat : Event := sampleEvent "personality.chat" [("message", .string "really?")]

/-- `requests_sound` for the second chat of a session. -/
theorem sample_request_sound : ∃ request,
    (handle sampleEnvironment (sampleEvents.foldl (step sampleEnvironment) Kv.empty)
      sampleChat).request = some request ∧
    ∃ sessionId message, chatOf sampleChat = some (sessionId, message) ∧
      SoundRequest (keepLast 40 (transcript sampleEnvironment Kv.empty sampleEvents sessionId))
        message request :=
  ⟨_, rfl, requests_sound sampleEnvironment sampleEvents sampleChat rfl⟩

/-! ## Where requests go -/

/-- The host of a provider without a base URL. -/
def Provider.host : Provider → String
  | .claude => "https://api.anthropic.com"
  | .openAI | .custom => "https://api.openai.com"

/-- The path of a provider's endpoint. -/
def Provider.path : Provider → String
  | .claude => "/v1/messages"
  | .openAI | .custom => "/v1/chat/completions"

/-- The header that a provider's key is sent in. -/
def Provider.keyHeader (provider : Provider) (apiKey : String) : String × String :=
  match provider with
  | .claude => ("x-api-key", apiKey)
  | .openAI | .custom => ("Authorization", "Bearer " ++ apiKey)

/-- The base URL of the input of a successful `personality.configure`. -/
def baseUrlOf (stores : String → Bool) (input : Json) : Option String := do
  let providerStr ← asStr (member input "provider")
  let _ ← asStr (member input "api_key")
  let _ ← Provider.parse providerStr
  let baseUrl ← asStr (member input "base_url")
  if stores "config" then some baseUrl else none

/-- The base URL that a piece of work sets, for whichever provider. -/
def baseUrlSet (event : Event) : Option String :=
  match event.work with
  | .tool name input =>
      if name = "personality.configure" then baseUrlOf event.stores input else none
  | .agentMessage _ => none

theorem load_config_set {key : String} (h : key ≠ "config") (stores : String → Bool) (kv : Kv)
    (value : Stored) : loadConfig (kvSet stores kv key value) = loadConfig kv := by
  unfold loadConfig
  rw [kv_set_apply, if_neg fun hkey => h hkey.1.symm]

theorem load_save_config (stores : String → Bool) (kv : Kv) (config : PersonalityConfig) :
    loadConfig (saveConfig stores kv config) =
      if stores "config" = true then config else loadConfig kv := by
  unfold loadConfig saveConfig
  rw [kv_set_apply]
  by_cases h : stores "config" = true
  · rw [if_pos ⟨rfl, h⟩, if_pos h]
  · rw [if_neg fun hkey => h hkey.2, if_neg h]

/-- A chat leaves the configuration as it is. -/
theorem load_config_chat (posted : Except String (List UInt8)) (stores : String → Bool) (kv : Kv)
    (sessionId message : String) :
    loadConfig (chat env posted stores kv sessionId message).kv = loadConfig kv := by
  rw [chat_kv]
  split
  next => rfl
  next =>
    unfold saveEmotion saveHistory
    rw [load_config_set (by decide), load_config_set (history_key_ne (by decide) sessionId)]

/-- The base URL after a piece of work, and whether a custom provider has one. -/
structure ConfigStep (before after : PersonalityConfig) (set : Option String) : Prop where
  base_url : after.baseUrl = set.or before.baseUrl
  custom : (before.provider = .custom → before.baseUrl ≠ none) →
    after.provider = .custom → after.baseUrl ≠ none

theorem ConfigStep.refl (config : PersonalityConfig) : ConfigStep config config none :=
  ⟨rfl, id⟩

theorem config_step_configure (stores : String → Bool) (kv : Kv) (input : Json) :
    ConfigStep (loadConfig kv) (loadConfig (configureTool stores kv input).kv)
      (baseUrlOf stores input) := by
  unfold configureTool baseUrlOf
  cases asStr (member input "provider") with
  | none => exact .refl _
  | some providerStr =>
      cases asStr (member input "api_key") with
      | none => exact .refl _
      | some apiKey =>
          dsimp only [Option.bind_eq_bind, Option.bind_some]
          cases Provider.parse providerStr with
          | none => exact .refl _
          | some provider =>
              have hbase : (updateConfig (loadConfig kv) provider apiKey input).baseUrl =
                  (asStr (member input "base_url")).or (loadConfig kv).baseUrl := rfl
              dsimp only [Option.bind_some]
              by_cases hcustom : (updateConfig (loadConfig kv) provider apiKey input).provider =
                  .custom ∧ (updateConfig (loadConfig kv) provider apiKey input).baseUrl = none
              · have hnone := Option.or_eq_none_iff.mp (hbase.symm.trans hcustom.2)
                rw [if_pos hcustom, hnone.1]
                exact .refl _
              · rw [if_neg hcustom, load_save_config]
                by_cases hstores : stores "config" = true
                · rw [if_pos hstores]
                  refine ⟨?_, fun _ hprovider hnone => hcustom ⟨hprovider, hnone⟩⟩
                  rw [hbase]
                  cases asStr (member input "base_url") with
                  | none => rfl
                  | some baseUrl => rw [Option.bind_some, if_pos hstores]
                · rw [if_neg hstores]
                  cases asStr (member input "base_url") with
                  | none => exact .refl _
                  | some baseUrl =>
                      rw [Option.bind_some, if_neg hstores]
                      exact .refl _

/-- Work that is not a configuration leaves the configuration as it is. -/
theorem config_step_chat_tool (posted : Except String (List UInt8)) (stores : String → Bool)
    (kv : Kv) (input : Json) :
    loadConfig (chatTool env posted stores kv input).kv = loadConfig kv := by
  unfold chatTool
  split
  next => rfl
  next => exact load_config_chat posted stores kv _ _

/-- What a piece of work does to the configuration. -/
theorem config_step (env : Environment) (kv : Kv) (event : Event) :
    ConfigStep (loadConfig kv) (loadConfig (step env kv event)) (baseUrlSet event) := by
  unfold step handle baseUrlSet
  cases event.work with
  | agentMessage content =>
      dsimp only
      unfold onEvent
      split
      next => exact .refl _
      next =>
        dsimp only
        rw [config_step_chat_tool]
        exact .refl _
  | tool name input =>
      dsimp only [invoke]
      split
      next =>
        rw [if_neg (by decide), config_step_chat_tool]
        exact .refl _
      next =>
        rw [if_pos rfl]
        exact config_step_configure event.stores kv input
      next =>
        rw [if_neg (by decide)]
        unfold setPersonaTool
        split
        next => exact .refl _
        next =>
          dsimp only
          rw [savePersona, load_config_set (by decide)]
          exact .refl _
      next =>
        rw [if_neg (by decide)]
        exact .refl _
      next hname _ _ =>
        rw [if_neg hname]
        exact .refl _

/-- The base URL in the configuration is the last one that was set. -/
theorem base_url_run (env : Environment) (events : List Event) :
    (loadConfig (events.foldl (step env) Kv.empty)).baseUrl =
      (events.filterMap baseUrlSet).getLast? := by
  induction events using List.reverseRecOn with
  | nil => rfl
  | append_singleton before event ih =>
      rw [List.foldl_concat, (config_step env _ event).base_url, ih,
        List.filterMap_append, List.getLast?_append]
      cases h : baseUrlSet event with
      | none => simp [h]
      | some baseUrl => simp [h]

/-- A custom provider has a base URL. -/
theorem custom_base_url (env : Environment) (events : List Event)
    (h : (loadConfig (events.foldl (step env) Kv.empty)).provider = .custom) :
    (loadConfig (events.foldl (step env) Kv.empty)).baseUrl ≠ none := by
  have hrun : (loadConfig (events.foldl (step env) Kv.empty)).provider = .custom →
      (loadConfig (events.foldl (step env) Kv.empty)).baseUrl ≠ none :=
    List.foldlRecOn events (step env)
      (motive := fun kv => (loadConfig kv).provider = .custom → (loadConfig kv).baseUrl ≠ none)
      (fun hcustom => nomatch hcustom) fun kv hkv event _ => (config_step env kv event).custom hkv
  exact hrun h

/-- In every run a request goes to the endpoint of the configured provider at the base URL that was
set last, be it for another provider, and takes the key of the configured one there. Only a
provider that is not custom is asked when none was set. -/
theorem endpoint_of_run (env : Environment) (events : List Event) (event : Event)
    {request : HttpPost}
    (h : (handle env (events.foldl (step env) Kv.empty) event).request = some request) :
    ∃ config, config = loadConfig (events.foldl (step env) Kv.empty) ∧
      request.url = ((events.filterMap baseUrlSet).getLast?).getD config.provider.host ++
        config.provider.path ∧
      config.provider.keyHeader config.apiKey ∈ request.headers ∧
      (config.provider = .custom → events.filterMap baseUrlSet ≠ []) := by
  obtain ⟨sessionId, message, -, rfl⟩ := of_request h
  refine ⟨_, rfl, ?_, ?_, ?_⟩
  · rw [← base_url_run env events]
    unfold callLlm
    cases (loadConfig (events.foldl (step env) Kv.empty)).provider <;> rfl
  · unfold callLlm
    cases (loadConfig (events.foldl (step env) Kv.empty)).provider
    · exact .tail _ (.head _)
    · exact .tail _ (.head _)
    · exact .tail _ (.head _)
  · intro hcustom hnone
    refine custom_base_url env events hcustom ?_
    rw [base_url_run, hnone]
    rfl

/-- `endpoint_of_run` for the key of Claude, which goes to the host of the custom provider. -/
theorem sample_endpoint : ∃ request,
    (handle sampleEnvironment (sampleEvents.foldl (step sampleEnvironment) Kv.empty)
      sampleChat).request = some request ∧
    request.url = "http://localhost:11434/v1/messages" ∧
    ("x-api-key", "sk-test") ∈ request.headers := by
  refine ⟨_, rfl, ?_⟩
  obtain ⟨config, hconfig, hurl, hheader, -⟩ :=
    endpoint_of_run sampleEnvironment sampleEvents sampleChat rfl
  subst hconfig
  exact ⟨hurl, hheader⟩

/-! ## The API key -/

/-- A header without the key that it may carry. -/
def hideKey (header : String × String) : String × String :=
  if header.1 = "x-api-key" ∨ header.1 = "Authorization" then (header.1, "") else header

/-- A request without the key in its header. -/
def HttpPost.withoutKey (request : HttpPost) : HttpPost :=
  { request with headers := request.headers.map hideKey }

/-- What is seen of a piece of work: its request without the key, and its result. -/
def observed (reply : Reply) : Option HttpPost × Except PluginError Json :=
  (reply.request.map HttpPost.withoutKey, reply.result)

/-- What is seen of a run. -/
def observations (env : Environment) (kv : Kv) :
    List Event → List (Option HttpPost × Except PluginError Json)
  | [] => []
  | event :: rest => observed (handle env kv event) :: observations env (step env kv event) rest

/-- Inputs that differ at most in an API key, which is empty in both or in neither. -/
structure AlikeInputs (first second : Json) : Prop where
  members : ∀ name, name ≠ "api_key" → member first name = member second name
  key : (asStr (member first "api_key")).map (· == "") =
    (asStr (member second "api_key")).map (· == "")

/-- Work that differs at most in an API key. -/
inductive AlikeWork : Work → Work → Prop where
  | tool (name : String) {first second : Json} (h : AlikeInputs first second) :
      AlikeWork (.tool name first) (.tool name second)
  | agentMessage (content : Json) : AlikeWork (.agentMessage content) (.agentMessage content)

/-- Pieces of work that differ at most in an API key and are answered alike. -/
structure Alike (first second : Event) : Prop where
  work : AlikeWork first.work second.work
  posted : first.posted = second.posted
  stores : first.stores = second.stores

/-- Configurations that differ at most in the API key. -/
def AlikeConfigs (first second : PersonalityConfig) : Prop :=
  ∃ key, second = { first with apiKey := key } ∧ (first.apiKey = "" ↔ key = "")

/-- Stores that differ at most in the API key. -/
structure SameButKey (first second : Kv) : Prop where
  others : ∀ key, key ≠ "config" → first key = second key
  config : AlikeConfigs (loadConfig first) (loadConfig second)

theorem SameButKey.refl (kv : Kv) : SameButKey kv kv :=
  ⟨fun _ _ => rfl, _, rfl, Iff.rfl⟩

section SameButKey

variable {other : Kv} (h : SameButKey kv other)
include h

theorem SameButKey.persona_eq : loadPersona kv = loadPersona other := by
  unfold loadPersona
  rw [h.others _ (by decide)]

theorem SameButKey.emotion_eq : loadEmotion kv = loadEmotion other := by
  unfold loadEmotion
  rw [h.others _ (by decide)]

theorem SameButKey.history_eq (sessionId : String) :
    loadHistory kv sessionId = loadHistory other sessionId := by
  unfold loadHistory
  rw [h.others _ (history_key_ne (by decide) sessionId)]

/-- The same value is stored in both. -/
theorem SameButKey.set {key : String} (hkey : key ≠ "config") (stores : String → Bool)
    (value : Stored) : SameButKey (kvSet stores kv key value) (kvSet stores other key value) where
  others name hname := by
    rw [kv_set_apply, kv_set_apply, h.others name hname]
  config := by
    rw [load_config_set hkey, load_config_set hkey]
    exact h.config

theorem SameButKey.save_config (stores : String → Bool) {first second : PersonalityConfig}
    (hconfig : AlikeConfigs first second) :
    SameButKey (saveConfig stores kv first) (saveConfig stores other second) where
  others name hname := by
    unfold saveConfig
    rw [kv_set_apply, kv_set_apply, if_neg fun hkey => hname hkey.1,
      if_neg fun hkey => hname hkey.1, h.others name hname]
  config := by
    rw [load_save_config, load_save_config]
    split
    next => exact hconfig
    next => exact h.config

/-- A chat looks alike with both keys, and keeps the stores alike. -/
theorem SameButKey.chat (env : Environment) (posted : Except String (List UInt8))
    (stores : String → Bool) (sessionId message : String) :
    observed (chat env posted stores kv sessionId message) =
        observed (chat env posted stores other sessionId message) ∧
      SameButKey (chat env posted stores kv sessionId message).kv
        (chat env posted stores other sessionId message).kv := by
  obtain ⟨key, hconfig, hempty⟩ := h.config
  have hgate : (loadConfig other).apiKey = "" ∧ (loadConfig other).provider ≠ .custom ↔
      (loadConfig kv).apiKey = "" ∧ (loadConfig kv).provider ≠ .custom := by
    rw [hconfig]
    exact and_congr_left fun _ => hempty.symm
  have hcall (system : String) (history : List Message) :
      (callLlm env (loadConfig other) system history message).2 =
          (callLlm env (loadConfig kv) system history message).2 ∧
        (callLlm env (loadConfig other) system history message).1.withoutKey =
          (callLlm env (loadConfig kv) system history message).1.withoutKey := by
    rw [hconfig]
    unfold callLlm
    cases (loadConfig kv).provider <;> exact ⟨rfl, rfl⟩
  unfold Personality.chat
  rw [← h.persona_eq, ← h.history_eq]
  by_cases hkey : (loadConfig kv).apiKey = "" ∧ (loadConfig kv).provider ≠ .custom
  · rw [if_pos hkey, if_pos (hgate.mpr hkey)]
    exact ⟨rfl, h⟩
  · rw [if_neg hkey, if_neg (mt hgate.mp hkey)]
    dsimp only
    obtain ⟨hanswer, hrequest⟩ := hcall (buildSystemPrompt (loadPersona kv))
      (loadHistory kv sessionId)
    have hsent := congrArg some hrequest.symm
    rw [hanswer]
    cases (callLlm env (loadConfig kv) (buildSystemPrompt (loadPersona kv))
      (loadHistory kv sessionId) message).2 posted with
    | error e => exact ⟨Prod.ext hsent rfl, h⟩
    | ok response =>
        exact ⟨Prod.ext hsent rfl,
          (h.set (history_key_ne (by decide) sessionId) stores _).set (by decide) stores _⟩

/-- So does a configuration. -/
theorem SameButKey.configure (stores : String → Bool) {input altered : Json}
    (hinput : AlikeInputs input altered) :
    observed (configureTool stores kv input) = observed (configureTool stores other altered) ∧
      SameButKey (configureTool stores kv input).kv (configureTool stores other altered).kv := by
  unfold configureTool
  rw [hinput.members "provider" (by decide)]
  cases asStr (member altered "provider") with
  | none => exact ⟨rfl, h⟩
  | some providerStr =>
      have hkeys := hinput.key
      cases hfirst : asStr (member input "api_key") with
      | none =>
          rw [hfirst, Option.map_none, eq_comm, Option.map_eq_none_iff] at hkeys
          rw [hkeys]
          exact ⟨rfl, h⟩
      | some firstKey =>
          rw [hfirst] at hkeys
          obtain ⟨secondKey, hsecond, hempty⟩ := Option.map_eq_some_iff.mp hkeys.symm
          rw [hsecond]
          dsimp only
          cases Provider.parse providerStr with
          | none => exact ⟨rfl, h⟩
          | some provider =>
              have hconfig : updateConfig (loadConfig other) provider secondKey altered =
                  { updateConfig (loadConfig kv) provider firstKey input with
                    apiKey := secondKey } := by
                obtain ⟨key, hother, -⟩ := h.config
                rw [hother, updateConfig, updateConfig, hinput.members "model" (by decide),
                  hinput.members "base_url" (by decide)]
              have halike : AlikeConfigs (updateConfig (loadConfig kv) provider firstKey input)
                  (updateConfig (loadConfig other) provider secondKey altered) := by
                refine ⟨secondKey, hconfig, ?_⟩
                have hkey : (secondKey == "") = (firstKey == "") := hempty
                show firstKey = "" ↔ secondKey = ""
                rw [← beq_iff_eq, ← hkey, beq_iff_eq]
              have hcustom : (updateConfig (loadConfig other) provider secondKey altered).provider =
                    .custom ∧
                    (updateConfig (loadConfig other) provider secondKey altered).baseUrl = none ↔
                  (updateConfig (loadConfig kv) provider firstKey input).provider = .custom ∧
                    (updateConfig (loadConfig kv) provider firstKey input).baseUrl = none := by
                rw [hconfig]
              have hmodel : (updateConfig (loadConfig other) provider secondKey altered).model =
                  (updateConfig (loadConfig kv) provider firstKey input).model := by
                rw [hconfig]
              dsimp only
              by_cases hmissing : (updateConfig (loadConfig kv) provider firstKey input).provider =
                  .custom ∧ (updateConfig (loadConfig kv) provider firstKey input).baseUrl = none
              · rw [if_pos hmissing, if_pos (hcustom.mpr hmissing)]
                exact ⟨rfl, h⟩
              · rw [if_neg hmissing, if_neg (mt hcustom.mp hmissing), hmodel]
                exact ⟨rfl, h.save_config stores halike⟩

theorem SameButKey.set_persona (stores : String → Bool) {input altered : Json}
    (hinput : AlikeInputs input altered) :
    observed (setPersonaTool stores kv input) = observed (setPersonaTool stores other altered) ∧
      SameButKey (setPersonaTool stores kv input).kv (setPersonaTool stores other altered).kv := by
  unfold setPersonaTool
  rw [hinput.members "name" (by decide), hinput.members "traits" (by decide),
    hinput.members "speech_style" (by decide), hinput.members "tone" (by decide), ← h.persona_eq]
  cases asStr (member altered "name") with
  | none => exact ⟨rfl, h⟩
  | some name => exact ⟨rfl, h.set (by decide) stores _⟩

theorem SameButKey.get_state :
    observed (getStateTool kv) = observed (getStateTool other) ∧
      SameButKey (getStateTool kv).kv (getStateTool other).kv := by
  refine ⟨?_, h⟩
  obtain ⟨key, hconfig, hempty⟩ := h.config
  have hhas : ((loadConfig other).apiKey != "") = ((loadConfig kv).apiKey != "") := by
    rw [hconfig, Bool.eq_iff_iff, bne_iff_ne, bne_iff_ne]
    exact not_congr hempty.symm
  have hprovider : (loadConfig other).provider = (loadConfig kv).provider := by rw [hconfig]
  have hmodel : (loadConfig other).model = (loadConfig kv).model := by rw [hconfig]
  simp only [observed, getStateTool, ← h.persona_eq, ← h.emotion_eq, hhas, hprovider, hmodel]

/-- A piece of work looks alike with both keys, and keeps the stores alike. -/
theorem SameButKey.handle (env : Environment) {event altered : Event}
    (halike : Alike event altered) :
    observed (handle env kv event) = observed (handle env other altered) ∧
      SameButKey (step env kv event) (step env other altered) := by
  have hchat {input changed : Json} (hinput : AlikeInputs input changed) :
      observed (chatTool env event.posted event.stores kv input) =
          observed (chatTool env event.posted event.stores other changed) ∧
        SameButKey (chatTool env event.posted event.stores kv input).kv
          (chatTool env event.posted event.stores other changed).kv := by
    unfold chatTool
    rw [hinput.members "message" (by decide), hinput.members "session_id" (by decide)]
    cases asStr (member changed "message") with
    | none => exact ⟨rfl, h⟩
    | some message => exact h.chat env event.posted event.stores _ message
  obtain ⟨work, posted, stores⟩ := event
  obtain ⟨_, _, _⟩ := altered
  obtain ⟨hwork, rfl, rfl⟩ := halike
  unfold step Personality.handle
  cases hwork with
  | agentMessage content =>
      dsimp only [onEvent]
      split
      next => exact ⟨rfl, h⟩
      next =>
        obtain ⟨hobserved, hkv⟩ := hchat ⟨fun _ _ => rfl, rfl⟩
        exact ⟨Prod.ext (congrArg Prod.fst hobserved :) rfl, hkv⟩
  | tool name hinput =>
      dsimp only [invoke]
      split
      next => exact hchat hinput
      next => exact h.configure stores hinput
      next => exact h.set_persona stores hinput
      next => exact h.get_state
      next => exact ⟨rfl, h⟩

end SameButKey

/-- Two runs that differ in the API keys that are set, and in nothing else that the plugin is
given, look alike and leave the same histories: keys are only ever seen in their header. -/
theorem results_hide_key (env : Environment) {events altered : List Event}
    (h : List.Forall₂ Alike events altered) :
    observations env Kv.empty events = observations env Kv.empty altered ∧
      ∀ sessionId, loadHistory (events.foldl (step env) Kv.empty) sessionId =
        loadHistory (altered.foldl (step env) Kv.empty) sessionId := by
  suffices hrun : ∀ kv other, SameButKey kv other →
      observations env kv events = observations env other altered ∧
        SameButKey (events.foldl (step env) kv) (altered.foldl (step env) other) by
    obtain ⟨hobserved, hstores⟩ := hrun _ _ (.refl Kv.empty)
    exact ⟨hobserved, hstores.history_eq⟩
  induction h with
  | nil => exact fun _ _ hkv => ⟨rfl, hkv⟩
  | cons halike _ ih =>
      intro kv other hkv
      obtain ⟨hobserved, hnext⟩ := hkv.handle env halike
      obtain ⟨hrest, hstores⟩ := ih _ _ hnext
      rw [observations, observations, hobserved, hrest]
      exact ⟨rfl, hstores⟩

/-- `results_hide_key` for runs with other keys. -/
theorem sample_results_hide_key :
    let configured (key : String) := [sampleEvent "personality.configure"
      [("api_key", .string key), ("provider", .string "openai")], sampleChat]
    observations sampleEnvironment Kv.empty (configured "sk-test") =
        observations sampleEnvironment Kv.empty (configured "sk-other") ∧
      ∀ sessionId,
        loadHistory ((configured "sk-test").foldl (step sampleEnvironment) Kv.empty) sessionId =
          loadHistory ((configured "sk-other").foldl (step sampleEnvironment) Kv.empty)
            sessionId := by
  intro configured
  refine results_hide_key sampleEnvironment (.cons ⟨.tool _ ⟨?_, rfl⟩, rfl, rfl⟩ (.cons
    ⟨.tool _ ⟨fun _ _ => rfl, rfl⟩, rfl, rfl⟩ .nil))
  intro name hname
  simp [member, Json.get?, List.lookup_cons, beq_false_of_ne hname]

end CorvidNano.Plugins.Personality
