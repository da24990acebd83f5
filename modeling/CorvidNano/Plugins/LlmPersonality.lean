import CorvidNano.Bridge.PluginList
import CorvidNano.Library.Stepwise
import CorvidNano.Library.Text
import CorvidNano.Library.Transcript

/-!
# The conversation of `llm-personality`

The plugin keeps a history for every session, which a chat sends to the LLM together with the new
message. It trims the history after the user's entry and before the assistant's.

`conversation_sound_iff` is the main result: the histories stay short and begin with the user, as
do the messages that are sent, exactly in the runs that clear the history of a session after ten
exchanges. The next chat sends a history that begins with the assistant and stores 21 entries,
which is the most that any run stores (`length_run_le`).
-/

namespace CorvidNano.Plugins.LlmPersonality

open Bridge.PluginList Bridge.ToolInput Transcript

/-! ## Data -/

/-- `LlmMessage`. -/
structure LlmMessage where
  role : String
  content : String
  deriving DecidableEq

/-- `LlmRequest`. -/
structure LlmRequest where
  messages : List LlmMessage
  system : String

/-- `PersonaConfig`. -/
structure PersonaConfig where
  name : String
  traits : List String
  speechStyle : String
  tone : String
  deriving DecidableEq

/-- `PersonaConfig::default`. -/
def PersonaConfig.default : PersonaConfig where
  name := "Nano"
  traits := ["helpful", "concise", "friendly"]
  speechStyle := "clear and direct"
  tone := "encouraging"

/-- `to_system_prompt`. -/
def PersonaConfig.toSystemPrompt (persona : PersonaConfig) : String :=
  "You are " ++ persona.name ++ ", an AI assistant with the following traits: " ++
    ", ".intercalate persona.traits ++ ". Your speech style is " ++ persona.speechStyle ++
    ". Your tone is " ++ persona.tone ++ ". Stay in character throughout the conversation."

/-- What serde makes of a value where a structure is expected: the members of an object by their
names, or the elements of an array by their positions. -/
def readStruct {Value : Type} (fields : List String)
    (ofFields : (String → Option Json) → Option Value) : Json → Option Value
  | .object members => ofFields fun name => members.lookup name
  | .array elements =>
      if elements.length ≤ fields.length then
        ofFields fun name => (fields.zip elements).lookup name
      else none
  | _ => none

/-- A message as serde writes it. The members of an object are in the order of their names. -/
def LlmMessage.toJson (message : LlmMessage) : Json :=
  .object [("content", .string message.content), ("role", .string message.role)]

/-- What serde makes of a value where a message is expected. -/
def LlmMessage.read : Json → Option LlmMessage :=
  readStruct ["role", "content"] fun field => do
    let role ← (field "role").bind asStr
    let content ← (field "content").bind asStr
    pure { role, content }

/-- A persona as serde writes it. -/
def PersonaConfig.toJson (persona : PersonaConfig) : Json :=
  .object [
    ("name", .string persona.name),
    ("speech_style", .string persona.speechStyle),
    ("tone", .string persona.tone),
    ("traits", strings persona.traits)]

/-- What serde makes of a value where a persona is expected. -/
def PersonaConfig.read : Json → Option PersonaConfig :=
  readStruct ["name", "traits", "speech_style", "tone"] fun field => do
    let name ← (field "name").bind asStr
    let traits ← (field "traits").bind (readList asStr)
    let speechStyle ← (field "speech_style").bind asStr
    let tone ← (field "tone").bind asStr
    pure { name, traits, speechStyle, tone }

/-- `Emotion`. -/
inductive Emotion where
  | happy
  | excited
  | teasing
  | thinking
  | confused
  | neutral
  deriving DecidableEq

/-- `as_str`. -/
def Emotion.asStr : Emotion → String
  | .happy => "happy"
  | .excited => "excited"
  | .teasing => "teasing"
  | .thinking => "thinking"
  | .confused => "confused"
  | .neutral => "neutral"

/-- `infer_from`, with `to_lowercase` of the standard library. -/
def Emotion.inferFrom (toLowercase : String → String) (text : String) : Emotion :=
  let lower := toLowercase text
  let mentions (patterns : List String) : Bool :=
    patterns.any fun pattern => Text.contains pattern lower
  if mentions ["actually", "interesting", "let me think", "hmm"] then .thinking
  else if mentions ["error", "sorry", "i don't understand", "unclear"] then .confused
  else if mentions ["haha", "😄", "funny", "joking"] then .teasing
  else if mentions ["!"] && mentions ["great", "awesome", "amazing"] then .excited
  else if mentions ["happy", "glad", "wonderful", "pleased"] then .happy
  else .neutral

/-! ## The store -/

/-- The last value that was stored under each key. -/
abbrev Kv := String → Option Json

/-- A store in which nothing has been stored. -/
def Kv.empty : Kv := fun _ => none

/-- `kv_set_json`, where `stores` says under which keys the host stores. The callers ignore
whether it did. -/
def kvSetJson (stores : String → Bool) (kv : Kv) (key : String) (value : Json) : Kv :=
  if stores key then fun other => if other = key then some value else kv other else kv

/-- `KEY_PERSONA`. -/
def keyPersona : String := "persona"

/-- `KEY_EMOTION`. -/
def keyEmotion : String := "emotion"

/-- `load_persona`. -/
def loadPersona (kv : Kv) : PersonaConfig :=
  ((kv keyPersona).bind PersonaConfig.read).getD .default

/-- `save_persona`. -/
def savePersona (stores : String → Bool) (kv : Kv) (persona : PersonaConfig) : Kv :=
  kvSetJson stores kv keyPersona persona.toJson

/-- `load_emotion`. -/
def loadEmotion (kv : Kv) : String :=
  ((kv keyEmotion).bind asStr).getD "neutral"

/-- `save_emotion`. -/
def saveEmotion (stores : String → Bool) (kv : Kv) (emotion : Emotion) : Kv :=
  kvSetJson stores kv keyEmotion (.string emotion.asStr)

/-- `MAX_HISTORY`. -/
def maxHistory : Nat := 20

/-- `history_key`. -/
def historyKey (sessionId : String) : String := "history:" ++ sessionId

/-- `load_history`. -/
def loadHistory (kv : Kv) (sessionId : String) : List LlmMessage :=
  ((kv (historyKey sessionId)).bind (readList LlmMessage.read)).getD []

/-- `save_history`. -/
def saveHistory (stores : String → Bool) (kv : Kv) (sessionId : String)
    (history : List LlmMessage) : Kv :=
  kvSetJson stores kv (historyKey sessionId) (.array (history.map LlmMessage.toJson))

/-! ## The tools -/

/-- What a tool leaves in the store, what it sends to the LLM, and its result. -/
structure Reply where
  kv : Kv
  request : Option LlmRequest
  result : Json

/-- `ok`. -/
def okJson (message : String) : Json :=
  .object [("message", .string message), ("ok", .bool true)]

/-- `err`. -/
def errJson (error : String) : Json :=
  .object [("error", .string error), ("ok", .bool false)]

/-- The message of a chat. -/
def messageOf (input : Json) : Option String := (input.get? "message").bind asStr

/-- The session of a chat, and of a history to clear. -/
def sessionOf (input : Json) : String :=
  ((input.get? "session_id").bind asStr).getD "default"

/-- The history of a chat once the user's entry is appended and the oldest entries are
drained. -/
def withUser (history : List LlmMessage) (message : String) : List LlmMessage :=
  keepLast maxHistory (history ++ [{ role := "user", content := message }])

variable (toLowercase : String → String)

/-- `tool_chat`, with what `llm_chat` answers and under which keys the host stores. -/
def toolChat (llmChat : LlmRequest → Except String String) (stores : String → Bool) (kv : Kv)
    (input : Json) : Reply :=
  match messageOf input with
  | none => { kv, request := none, result := errJson "missing required field: message" }
  | some message =>
      let sessionId := sessionOf input
      let persona := loadPersona kv
      let history := withUser (loadHistory kv sessionId) message
      let request := { messages := history, system := persona.toSystemPrompt }
      match llmChat request with
      | .error e => { kv, request := some request, result := errJson ("LLM error: " ++ e) }
      | .ok response =>
          -- The history is not trimmed again after the assistant's entry.
          let history := history ++ [{ role := "assistant", content := response }]
          let kv := saveHistory stores kv sessionId history
          let emotion := Emotion.inferFrom toLowercase response
          let kv := saveEmotion stores kv emotion
          { kv
            request := some request
            result := .object [
              ("emotion", .string emotion.asStr),
              ("persona", .string persona.name),
              ("response", .string response)] }

/-- The persona that `tool_set_persona` makes of the stored one. -/
def updatePersona (persona : PersonaConfig) (input : Json) : PersonaConfig where
  name := ((input.get? "name").bind asStr).getD persona.name
  traits :=
    match input.get? "traits" with
    | some (.array traits) => traits.filterMap asStr
    | _ => persona.traits
  speechStyle := ((input.get? "speech_style").bind asStr).getD persona.speechStyle
  tone := ((input.get? "tone").bind asStr).getD persona.tone

/-- `tool_set_persona`. -/
def toolSetPersona (stores : String → Bool) (kv : Kv) (input : Json) : Reply :=
  let persona := updatePersona (loadPersona kv) input
  { kv := savePersona stores kv persona
    request := none
    result := .object [("ok", .bool true), ("persona", persona.toJson)] }

/-- `tool_get_persona`. -/
def toolGetPersona (kv : Kv) : Reply :=
  { kv, request := none, result := (loadPersona kv).toJson }

/-- `tool_get_emotion`. -/
def toolGetEmotion (kv : Kv) : Reply :=
  { kv, request := none, result := .object [("emotion", .string (loadEmotion kv))] }

/-- `tool_clear_history`. -/
def toolClearHistory (stores : String → Bool) (kv : Kv) (input : Json) : Reply :=
  let sessionId := sessionOf input
  { kv := saveHistory stores kv sessionId []
    request := none
    result := okJson ("history cleared for session '" ++ sessionId ++ "'") }

/-- A call of the plugin: the tool and its input, what the LLM answers if it is asked, and under
which keys the host stores during the call. -/
structure Invocation where
  toolName : String
  input : Json
  answer : Except String String
  stores : String → Bool

/-- `__corvid_invoke`. -/
def invoke (kv : Kv) (call : Invocation) : Reply :=
  match call.toolName with
  | "chat" => toolChat toLowercase (fun _ => call.answer) call.stores kv call.input
  | "set_persona" => toolSetPersona call.stores kv call.input
  | "get_persona" => toolGetPersona kv
  | "get_emotion" => toolGetEmotion kv
  | "clear_history" => toolClearHistory call.stores kv call.input
  | toolName => { kv, request := none, result := errJson ("unknown tool: " ++ toolName) }

/-- The store after a call. -/
def step (kv : Kv) (call : Invocation) : Kv := (invoke toLowercase kv call).kv

/-! ## Sound conversations -/

/-- A history that is not too long, in which the two take turns and the user begins. -/
structure SoundHistory (history : List LlmMessage) : Prop where
  length_le : history.length ≤ maxHistory
  alternates : Alternates "user" "assistant" (history.map LlmMessage.role)

/-- Messages that begin with one of the user and end with the current one. -/
structure SoundRequest (message : String) (request : LlmRequest) : Prop where
  first : ∃ content, request.messages.head? = some ⟨"user", content⟩
  last : request.messages.getLast? = some ⟨"user", message⟩

/-- A call that sends sound messages, if any, and leaves sound histories. -/
structure Sound (kv : Kv) (call : Invocation) : Prop where
  history : ∀ sessionId, SoundHistory (loadHistory (step toLowercase kv call) sessionId)
  request : ∀ request, (invoke toLowercase kv call).request = some request →
    ∃ message, messageOf call.input = some message ∧ SoundRequest message request

/-- The session of a chat with a message. -/
def chatSession (call : Invocation) : Option String :=
  if call.toolName = "chat" ∧ (messageOf call.input).isSome then some (sessionOf call.input)
  else none

/-- How many exchanges are stored for each session after a call: one more after a chat that is
answered and stored, and none after the history is cleared. -/
def countExchanges (exchanges : String → Nat) (call : Invocation) (sessionId : String) : Nat :=
  if sessionOf call.input = sessionId ∧ call.stores (historyKey sessionId) = true then
    if call.toolName = "clear_history" then 0
    else if (chatSession call).isSome ∧ call.answer.isOk then exchanges sessionId + 1
    else exchanges sessionId
  else exchanges sessionId

/-- The history of the session has room for another exchange. -/
def HasRoom (exchanges : String → Nat) (call : Invocation) : Prop :=
  ∀ sessionId, chatSession call = some sessionId → 2 * exchanges sessionId < maxHistory

/-! ## What the store keeps -/

/-- What is stored under a key after a call of `kv_set_json`. -/
theorem kv_set_json_apply (stores : String → Bool) (kv : Kv) (key : String) (value : Json)
    (other : String) :
    kvSetJson stores kv key value other =
      if other = key ∧ stores key = true then some value else kv other := by
  unfold kvSetJson
  by_cases hstores : stores key = true
  · simp only [hstores, if_true, and_true]
  · simp [hstores]

theorem history_key_injective {sessionId other : String} :
    historyKey sessionId = historyKey other ↔ sessionId = other := by
  unfold historyKey
  exact ⟨fun h => by simpa [String.ext_iff] using h, fun h => by rw [h]⟩

/-- The key of a history begins with `h`, and the other two do not. -/
theorem history_key_ne {sessionId key : String} (hkey : key.toList.head? ≠ some 'h') :
    historyKey sessionId ≠ key := by
  rintro rfl
  apply hkey
  rw [historyKey, String.toList_append]
  rfl

/-- A history is read as it was written. -/
theorem read_history (history : List LlmMessage) :
    readList LlmMessage.read (.array (history.map LlmMessage.toJson)) = some history := by
  show (history.map LlmMessage.toJson).mapM LlmMessage.read = some history
  induction history with
  | nil => rfl
  | cons message rest ih =>
      have hmessage : LlmMessage.read message.toJson = some message := rfl
      rw [List.map_cons, List.mapM_cons, hmessage, ih]
      rfl

/-- A history is loaded as it was saved, if the host has stored it, and no other history
changes. -/
theorem load_save_history (stores : String → Bool) (kv : Kv) (sessionId other : String)
    (history : List LlmMessage) :
    loadHistory (saveHistory stores kv sessionId history) other =
      if sessionId = other ∧ stores (historyKey other) = true then history
      else loadHistory kv other := by
  unfold loadHistory saveHistory
  rw [kv_set_json_apply]
  by_cases hother : sessionId = other
  · subst hother
    by_cases hstores : stores (historyKey sessionId) = true
    · rw [if_pos ⟨rfl, hstores⟩, if_pos ⟨rfl, hstores⟩, Option.bind_some, read_history,
        Option.getD_some]
    · rw [if_neg fun h => hstores h.2, if_neg fun h => hstores h.2]
  · have hkey : historyKey other ≠ historyKey sessionId := fun h =>
      hother (history_key_injective.mp h).symm
    rw [if_neg fun h => hkey h.1, if_neg fun h => hother h.1]

/-- A value under a key of another kind leaves the histories as they are. -/
theorem load_history_set {key : String} (hkey : key.toList.head? ≠ some 'h')
    (stores : String → Bool) (kv : Kv) (value : Json) (sessionId : String) :
    loadHistory (kvSetJson stores kv key value) sessionId = loadHistory kv sessionId := by
  unfold loadHistory
  rw [kv_set_json_apply, if_neg fun h => history_key_ne hkey h.1]

/-! ## What a call does -/

variable {toLowercase}

/-- The session of a call is that of its input if it is a chat with a message. -/
theorem chat_session_eq_some {call : Invocation} {sessionId : String} :
    chatSession call = some sessionId ↔ call.toolName = "chat" ∧
      (∃ message, messageOf call.input = some message) ∧ sessionOf call.input = sessionId := by
  unfold chatSession
  rw [← Option.isSome_iff_exists, ← and_assoc]
  by_cases h : call.toolName = "chat" ∧ (messageOf call.input).isSome = true
  · rw [if_pos h, Option.some.injEq, and_iff_right h]
  · rw [if_neg h]
    exact iff_of_false nofun fun h' => h h'.1

/-- A chat of no session has no message. -/
theorem message_of_eq_none {call : Invocation} (hchat : chatSession call = none)
    (htool : call.toolName = "chat") : messageOf call.input = none := by
  cases hmessage : messageOf call.input with
  | none => rfl
  | some message =>
      have hsession := chat_session_eq_some.mpr ⟨htool, ⟨message, hmessage⟩, rfl⟩
      rw [hchat] at hsession
      cases hsession

/-- A chat with a message sends the history with the user's entry. -/
theorem request_chat {kv : Kv} {call : Invocation} {message : String}
    (htool : call.toolName = "chat") (hmessage : messageOf call.input = some message) :
    (invoke toLowercase kv call).request = some {
      messages := withUser (loadHistory kv (sessionOf call.input)) message
      system := (loadPersona kv).toSystemPrompt } := by
  unfold invoke
  simp only [htool, toolChat, hmessage]
  cases call.answer with
  | error e => rfl
  | ok response => rfl

/-- An answered chat stores what it has sent, followed by the assistant's entry. -/
theorem load_history_answered {kv : Kv} {call : Invocation} {message response : String}
    (htool : call.toolName = "chat") (hmessage : messageOf call.input = some message)
    (hanswer : call.answer = .ok response) (sessionId : String) :
    loadHistory (step toLowercase kv call) sessionId =
      if sessionOf call.input = sessionId ∧ call.stores (historyKey sessionId) = true then
        withUser (loadHistory kv (sessionOf call.input)) message ++
          [{ role := "assistant", content := response }]
      else loadHistory kv sessionId := by
  unfold step invoke
  simp only [htool, toolChat, hmessage, hanswer]
  rw [saveEmotion, load_history_set (by decide), load_save_history]

/-- A chat that is not answered leaves the store as it is. -/
theorem step_unanswered {kv : Kv} {call : Invocation} {e : String}
    (htool : call.toolName = "chat") (hanswer : call.answer = .error e) :
    step toLowercase kv call = kv := by
  unfold step invoke
  simp only [htool, toolChat, hanswer]
  cases messageOf call.input with
  | none => rfl
  | some message => rfl

/-- Clearing a history stores an empty one. -/
theorem load_history_cleared {kv : Kv} {call : Invocation}
    (htool : call.toolName = "clear_history") (sessionId : String) :
    loadHistory (step toLowercase kv call) sessionId =
      if sessionOf call.input = sessionId ∧ call.stores (historyKey sessionId) = true then []
      else loadHistory kv sessionId := by
  unfold step invoke
  simp only [htool, toolClearHistory]
  exact load_save_history call.stores kv (sessionOf call.input) sessionId []

/-- Only chats with a message ask the LLM. -/
theorem request_other {kv : Kv} {call : Invocation} (hchat : chatSession call = none) :
    (invoke toLowercase kv call).request = none := by
  unfold invoke
  split
  next htool =>
    simp only [toolChat, message_of_eq_none hchat htool]
  all_goals rfl

/-- The other calls leave the histories as they are. -/
theorem load_history_other {kv : Kv} {call : Invocation} (hchat : chatSession call = none)
    (hclear : call.toolName ≠ "clear_history") (sessionId : String) :
    loadHistory (step toLowercase kv call) sessionId = loadHistory kv sessionId := by
  unfold step invoke
  split
  next htool =>
    simp only [toolChat, message_of_eq_none hchat htool]
  next htool => exact load_history_set (by decide) call.stores kv _ sessionId
  next htool => rfl
  next htool => rfl
  next htool => exact absurd htool hclear
  next => rfl

/-! ## What a conversation keeps -/

/-- A sound history of so many exchanges. -/
structure Exchanges (count : Nat) (history : List LlmMessage) : Prop where
  sound : SoundHistory history
  length : history.length = 2 * count

theorem exchanges_nil : Exchanges 0 [] :=
  ⟨⟨Nat.zero_le _, trivial⟩, rfl⟩

/-- The user's entry keeps the turns. -/
theorem Exchanges.alternates_user {count : Nat} {history : List LlmMessage}
    (h : Exchanges count history) (message : String) :
    Alternates "user" "assistant"
      ((history ++ [LlmMessage.mk "user" message]).map LlmMessage.role) := by
  rw [List.map_append, List.map_singleton, alternates_concat, List.length_map, h.length,
    speaker_two_mul]
  exact ⟨h.sound.alternates, rfl⟩

/-- Nothing is drained while there is room. -/
theorem Exchanges.with_user {count : Nat} {history : List LlmMessage}
    (h : Exchanges count history) (hroom : 2 * count < maxHistory) (message : String) :
    withUser history message = history ++ [⟨"user", message⟩] := by
  apply keep_last_of_le
  rw [List.length_append, List.length_singleton, h.length]
  exact hroom

/-- An answered chat adds an exchange. -/
theorem Exchanges.next {count : Nat} {history : List LlmMessage} (h : Exchanges count history)
    (hroom : 2 * count < maxHistory) (message response : String) :
    Exchanges (count + 1) (withUser history message ++ [⟨"assistant", response⟩]) := by
  have hlength : (history ++ [LlmMessage.mk "user" message]).length = 2 * count + 1 := by
    rw [List.length_append, List.length_singleton, h.length]
  have hspeaker : speaker "user" "assistant" (2 * count + 1) = "assistant" := by
    rw [speaker_succ, speaker_two_mul]
  rw [h.with_user hroom]
  refine ⟨⟨?_, ?_⟩, ?_⟩
  · rw [List.length_append, hlength, List.length_singleton]
    unfold maxHistory at hroom ⊢
    omega
  · rw [List.map_append, List.map_singleton, alternates_concat, List.length_map, hlength, hspeaker]
    exact ⟨h.alternates_user message, rfl⟩
  · rw [List.length_append, hlength, List.length_singleton]
    omega

/-- Who begins the messages is the role of the first one. -/
theorem role_of_head {first second : String} {messages : List LlmMessage} {message : LlmMessage}
    (h : Alternates first second (messages.map LlmMessage.role))
    (hhead : messages.head? = some message) : message.role = first := by
  cases messages with
  | nil => cases hhead
  | cons other rest =>
      obtain rfl := Option.some.inj hhead
      exact h.1

/-- The messages that are sent are sound while there is room, and begin with the assistant's last
entry but one after that. -/
theorem Exchanges.sound_request_iff {count : Nat} {history : List LlmMessage}
    (h : Exchanges count history) (message system : String) :
    SoundRequest message ⟨withUser history message, system⟩ ↔ 2 * count < maxHistory := by
  constructor
  · intro hsound
    by_contra hfull
    obtain ⟨content, hfirst⟩ := hsound.first
    have hlength : (history ++ [LlmMessage.mk "user" message]).length - maxHistory = 1 := by
      have hle := h.sound.length_le
      rw [List.length_append, List.length_singleton, h.length]
      rw [h.length] at hle
      omega
    have hdrained : withUser history message =
        (history ++ [LlmMessage.mk "user" message]).drop 1 := by
      rw [withUser, keepLast, hlength]
    have hturns := (h.alternates_user message).drop 1
    rw [← List.map_drop, ← hdrained] at hturns
    have hrole : "user" = "assistant" := role_of_head hturns hfirst
    exact absurd hrole (by decide)
  · intro hroom
    have hturns := h.alternates_user message
    rw [← h.with_user hroom] at hturns
    constructor
    · cases hhead : (withUser history message).head? with
      | none =>
          rw [h.with_user hroom, List.head?_eq_none_iff] at hhead
          simp at hhead
      | some first =>
          have hrole := role_of_head hturns hhead
          exact ⟨first.content, by rw [← hrole]⟩
    · show (withUser history message).getLast? = _
      rw [h.with_user hroom, List.getLast?_concat]

/-- Every session has a sound history of its exchanges. -/
def Related (kv : Kv) (exchanges : String → Nat) : Prop :=
  ∀ sessionId, Exchanges (exchanges sessionId) (loadHistory kv sessionId)

theorem related_empty : Related Kv.empty fun _ => 0 :=
  fun _ => exchanges_nil

/-- A call for whose session there is room adds an exchange, clears a history, or leaves the
histories as they are. -/
theorem Related.step {kv : Kv} {exchanges : String → Nat} (h : Related kv exchanges)
    {call : Invocation} (hroom : HasRoom exchanges call) :
    Related (step toLowercase kv call) (countExchanges exchanges call) := by
  intro sessionId
  cases hchat : chatSession call with
  | some session =>
      obtain ⟨htool, ⟨message, hmessage⟩, hsession⟩ := chat_session_eq_some.mp hchat
      have hclear : call.toolName ≠ "clear_history" := by rw [htool]; decide
      cases hanswer : call.answer with
      | error e =>
          rw [step_unanswered htool hanswer]
          have hcount : countExchanges exchanges call sessionId = exchanges sessionId := by
            simp [countExchanges, hclear, hanswer, Except.isOk, Except.toBool]
          rw [hcount]
          exact h sessionId
      | ok response =>
          rw [load_history_answered htool hmessage hanswer]
          by_cases hstored : sessionOf call.input = sessionId ∧
              call.stores (historyKey sessionId) = true
          · have hcount : countExchanges exchanges call sessionId = exchanges sessionId + 1 := by
              simp [countExchanges, hclear, hchat, hanswer, hstored, Except.isOk, Except.toBool]
            rw [if_pos hstored, hcount, hstored.1]
            exact (h sessionId).next (hroom sessionId (hchat.trans (by rw [← hsession, hstored.1])))
              message response
          · rw [if_neg hstored, countExchanges, if_neg hstored]
            exact h sessionId
  | none =>
      by_cases hclear : call.toolName = "clear_history"
      · rw [load_history_cleared hclear]
        by_cases hstored : sessionOf call.input = sessionId ∧
            call.stores (historyKey sessionId) = true
        · rw [if_pos hstored, countExchanges, if_pos hstored, if_pos hclear]
          exact exchanges_nil
        · rw [if_neg hstored, countExchanges, if_neg hstored]
          exact h sessionId
      · have hcount : countExchanges exchanges call sessionId = exchanges sessionId := by
          simp [countExchanges, hclear, hchat]
        rw [load_history_other hchat hclear, hcount]
        exact h sessionId

/-- A call is sound exactly if there is room for it. -/
theorem Related.sound_iff {kv : Kv} {exchanges : String → Nat} (h : Related kv exchanges)
    (call : Invocation) : Sound toLowercase kv call ↔ HasRoom exchanges call := by
  constructor
  · intro hsound sessionId hchat
    obtain ⟨htool, ⟨message, hmessage⟩, hsession⟩ := chat_session_eq_some.mp hchat
    obtain ⟨current, hcurrent, hrequest⟩ := hsound.request _ (request_chat htool hmessage)
    obtain rfl := Option.some.inj (hmessage.symm.trans hcurrent)
    rw [hsession] at hrequest
    exact ((h sessionId).sound_request_iff message _).mp hrequest
  · intro hroom
    refine ⟨fun sessionId => (h.step hroom sessionId).sound, fun request hrequest => ?_⟩
    cases hchat : chatSession call with
    | none =>
        rw [request_other hchat] at hrequest
        cases hrequest
    | some sessionId =>
        obtain ⟨htool, ⟨message, hmessage⟩, hsession⟩ := chat_session_eq_some.mp hchat
        rw [request_chat htool hmessage, hsession] at hrequest
        obtain rfl := Option.some.inj hrequest
        exact ⟨message, hmessage,
          ((h sessionId).sound_request_iff message _).mpr (hroom sessionId hchat)⟩

/-! ## Runs of the plugin -/

/-- A call leaves at most one entry more than the limit. -/
theorem length_step_le {kv : Kv}
    (h : ∀ sessionId, (loadHistory kv sessionId).length ≤ maxHistory + 1) (call : Invocation)
    (sessionId : String) :
    (loadHistory (step toLowercase kv call) sessionId).length ≤ maxHistory + 1 := by
  cases hchat : chatSession call with
  | some session =>
      obtain ⟨htool, ⟨message, hmessage⟩, -⟩ := chat_session_eq_some.mp hchat
      cases hanswer : call.answer with
      | error e =>
          rw [step_unanswered htool hanswer]
          exact h sessionId
      | ok response =>
          rw [load_history_answered htool hmessage hanswer]
          split
          next =>
            rw [List.length_append, List.length_singleton]
            exact Nat.succ_le_succ (length_keep_last_le maxHistory _)
          next => exact h sessionId
  | none =>
      by_cases hclear : call.toolName = "clear_history"
      · rw [load_history_cleared hclear]
        split
        next => exact Nat.zero_le _
        next => exact h sessionId
      · rw [load_history_other hchat hclear]
        exact h sessionId

/-- In every run each history has at most one entry more than the limit. -/
theorem length_run_le (toLowercase : String → String) (calls : List Invocation)
    (sessionId : String) :
    (loadHistory (calls.foldl (step toLowercase) Kv.empty) sessionId).length ≤
      maxHistory + 1 := by
  have hrun : ∀ other, (loadHistory (calls.foldl (step toLowercase) Kv.empty) other).length ≤
      maxHistory + 1 :=
    List.foldlRecOn calls (step toLowercase)
      (motive := fun kv => ∀ other, (loadHistory kv other).length ≤ maxHistory + 1)
      (fun _ => Nat.zero_le _) fun kv h call _ => length_step_le h call
  exact hrun sessionId

/-- Every call of a run is sound exactly if there is room for every chat: its session has fewer than
ten stored exchanges since its history was last cleared. -/
theorem conversation_sound_iff (toLowercase : String → String) (calls : List Invocation) :
    Stepwise.Holds (step toLowercase) (Sound toLowercase) Kv.empty calls ↔
      Stepwise.Holds countExchanges HasRoom (fun _ => 0) calls :=
  Stepwise.holds_iff (fun h => h.sound_iff _)
    (fun h hsound => h.step ((h.sound_iff _).mp hsound)) related_empty calls

/-- An answered chat of the default session. -/
def hello : Invocation where
  toolName := "chat"
  input := .object [("message", .string "hello")]
  answer := .ok "hi"
  stores _ := true

/-- The store after ten such chats. -/
def tenExchanges : Kv := (List.replicate 10 hello).foldl (step id) Kv.empty

/-- The eleventh chat in a row sends messages that begin with the assistant, and stores a history
of 21 entries that begins with the assistant. -/
theorem eleventh_chat_unsound :
    ((invoke id tenExchanges hello).request.bind fun request => request.messages.head?) =
        some ⟨"assistant", "hi"⟩ ∧
      (loadHistory (step id tenExchanges hello) "default").head? = some ⟨"assistant", "hi"⟩ ∧
      (loadHistory (step id tenExchanges hello) "default").length = 21 ∧
      ¬ Stepwise.Holds (step id) (Sound id) Kv.empty (List.replicate 11 hello) := by
  have hlength : (loadHistory (step id tenExchanges hello) "default").length = 21 := by
    decide +kernel
  refine ⟨by decide +kernel, by decide +kernel, hlength, fun hholds => ?_⟩
  have hsound := hholds (List.replicate 10 hello) hello [] rfl
  have hle := (hsound.history "default").length_le
  rw [← tenExchanges, hlength] at hle
  exact absurd hle (by decide)

end CorvidNano.Plugins.LlmPersonality
