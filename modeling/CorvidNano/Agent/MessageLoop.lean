import CorvidNano.Agent.HubClient
import CorvidNano.Library.Utf8

/-!
# The agent's message loop

`run_message_loop` in `agent.rs`: every message that a sync returns is logged, forwarded to the
hub, and answered on-chain with the hub's response or with an error text. The log lines cut a
text at byte 100 with `truncate`, which panics inside a character.

`one_reply_each_iff` is the main result: a batch is answered one by one exactly if the log level
hides these lines or each text that they cut may be cut there.
-/

namespace CorvidNano.Agent.MessageLoop

open HubClient

/-- The fields of a received message that the loop reads. -/
structure Message where
  sender : String
  content : String
  deriving DecidableEq

/-- A call of `send_reply`. Its own outcome is only logged. -/
structure Reply where
  recipient : String
  text : String
  deriving DecidableEq

/-- What the loop depends on besides the messages: the hub's URL, absent in P2P mode, and
whether the log level lets `info!` evaluate its arguments. -/
structure AgentLoopConfig where
  hubUrl : Option String
  infoEnabled : Bool

/-- The text of the reply to a message that the hub did not accept. -/
def hubUnreachable : String :=
  "[error] Agent hub is unreachable. Please try again later."

/-- The text of the reply to a message whose task gave no response. -/
def noResponse : String :=
  "[error] Agent did not produce a response. The request may have timed out."

/-- `truncate`. It is `none` where the slice panics. -/
def truncate (text : String) (max : Nat) : Option (List Char) :=
  Utf8.cut max text.toList

/-- An `info!` line with `truncate(text, 100)` as an argument. -/
def logTruncated (config : AgentLoopConfig) (text : String) : Option Unit :=
  if config.infoEnabled then (truncate text 100).map fun _ => () else some ()

/-- What has been done when the handling ends, in order or with a panic. -/
structure Handled where
  replies : List Reply
  panicked : Bool

/-- The body of the loop over a batch, for one message and the hub that it meets. -/
def handleMessage (config : AgentLoopConfig) (msg : Message) (hub : Hub) : Handled :=
  match logTruncated config msg.content with
  | none => { replies := [], panicked := true }
  | some _ =>
      match config.hubUrl with
      | none => { replies := [], panicked := false }
      | some hubUrl =>
          match forwardToHub hub hubUrl msg.sender msg.content with
          | none => { replies := [⟨msg.sender, hubUnreachable⟩], panicked := false }
          | some taskId =>
              match pollHubTask hub hubUrl taskId with
              | none => { replies := [⟨msg.sender, noResponse⟩], panicked := false }
              | some response =>
                  match logTruncated config response with
                  -- The line is logged before the reply is sent, so the panic loses the reply.
                  | none => { replies := [], panicked := true }
                  | some _ => { replies := [⟨msg.sender, response⟩], panicked := false }

/-- The loop over a batch. A panic ends it. -/
def handleBatch (config : AgentLoopConfig) : List (Message × Hub) → Handled
  | [] => { replies := [], panicked := false }
  | (msg, hub) :: rest =>
      let first := handleMessage config msg hub
      if first.panicked then first
      else
        let others := handleBatch config rest
        { replies := first.replies ++ others.replies, panicked := others.panicked }

/-- `run_message_loop` over the results of successive syncs. -/
def runMessageLoop (config : AgentLoopConfig) :
    List (Except String (List (Message × Hub))) → Handled
  | [] => { replies := [], panicked := false }
  | .ok batch :: rest =>
      let first := handleBatch config batch
      if first.panicked then first
      else
        let others := runMessageLoop config rest
        { replies := first.replies ++ others.replies, panicked := others.panicked }
  | .error _ :: rest => runMessageLoop config rest

/-! ## What the loop is for -/

/-- The hub accepts the message and, within the poll limit, reports its task completed with this
response. -/
def CompletesWith (hub : Hub) (hubUrl : String) (msg : Message) (response : String) : Prop :=
  ∃ taskId, accepted (hub.submit (submitUrl hubUrl) (algoChatRequest msg.sender msg.content)) =
      some taskId ∧
    ∃ before last after, attempts hub hubUrl taskId = before ++ last :: after ∧
      Completes last response ∧ ∀ outcome ∈ before, terminalStatus outcome = none

/-- The reply to a message goes to its sender, and its text is the hub's response, or an error
text if there is none. -/
def Answers (hubUrl : String) (received : Message × Hub) (reply : Reply) : Prop :=
  reply.recipient = received.1.sender ∧
    (CompletesWith received.2 hubUrl received.1 reply.text ∨
      ((∀ response, ¬ CompletesWith received.2 hubUrl received.1 response) ∧
        (reply.text = hubUnreachable ∨ reply.text = noResponse)))

/-- The batch is handled to its end, with one reply for each message in hub mode and none in P2P
mode. -/
def OneReplyEach (config : AgentLoopConfig) (batch : List (Message × Hub)) : Prop :=
  (handleBatch config batch).panicked = false ∧
    match config.hubUrl with
    | none => (handleBatch config batch).replies = []
    | some hubUrl => List.Forall₂ (Answers hubUrl) batch (handleBatch config batch).replies

/-- `truncate(text, 100)` returns. -/
def Cuttable (text : String) : Prop :=
  Utf8.size text.toList ≤ 100 ∨ Utf8.IsBoundary 100 text.toList

/-- Every text of the message's handling that the log cuts can be cut. -/
def AllCuttable (config : AgentLoopConfig) (received : Message × Hub) : Prop :=
  Cuttable received.1.content ∧
    ∀ hubUrl, config.hubUrl = some hubUrl →
      ∀ response, CompletesWith received.2 hubUrl received.1 response → Cuttable response

/-! ## Log lines -/

/-- A log line is written unless it has to cut a text inside a character. -/
theorem log_truncated_eq_none_iff {config : AgentLoopConfig} {text : String} :
    logTruncated config text = none ↔ config.infoEnabled = true ∧ ¬ Cuttable text := by
  unfold logTruncated
  cases config.infoEnabled with
  | false => simp
  | true =>
      rw [Cuttable, ← Utf8.is_some_cut_iff, truncate]
      simp

/-! ## One message -/

/-- The loop finds a response exactly if the task completes with it. -/
theorem bind_poll_hub_task_eq_some_iff {hub : Hub} {hubUrl response : String} {msg : Message} :
    (forwardToHub hub hubUrl msg.sender msg.content).bind (pollHubTask hub hubUrl) =
        some response ↔ CompletesWith hub hubUrl msg response := by
  rw [Option.bind_eq_some_iff]
  unfold pollHubTask
  simp only [poll_hub_task_loop_eq_some_iff]
  rfl

/-- A task completes with one response. -/
theorem CompletesWith.unique {hub : Hub} {hubUrl first second : String} {msg : Message}
    (h : CompletesWith hub hubUrl msg first) (hother : CompletesWith hub hubUrl msg second) :
    first = second :=
  Option.some.inj ((bind_poll_hub_task_eq_some_iff.mpr h).symm.trans
    (bind_poll_hub_task_eq_some_iff.mpr hother))

/-- In hub mode a logged message is answered with an error text if its task gives no response,
and with the response otherwise, unless that response's own log line panics. -/
theorem handle_message_hub_cases {config : AgentLoopConfig} {hubUrl : String} {msg : Message}
    (hhub : config.hubUrl = some hubUrl) (hlog : logTruncated config msg.content = some ())
    (hub : Hub) :
    (∃ text, (text = hubUnreachable ∨ text = noResponse) ∧
        (∀ response, ¬ CompletesWith hub hubUrl msg response) ∧
        handleMessage config msg hub = { replies := [⟨msg.sender, text⟩], panicked := false }) ∨
      ∃ response, CompletesWith hub hubUrl msg response ∧
        handleMessage config msg hub =
          match logTruncated config response with
          | none => { replies := [], panicked := true }
          | some _ => { replies := [⟨msg.sender, response⟩], panicked := false } := by
  unfold handleMessage
  simp only [hlog, hhub, ← bind_poll_hub_task_eq_some_iff]
  cases forwardToHub hub hubUrl msg.sender msg.content with
  | none => exact Or.inl ⟨hubUnreachable, Or.inl rfl, by simp, rfl⟩
  | some taskId =>
      simp only [Option.bind_some]
      cases pollHubTask hub hubUrl taskId with
      | none => exact Or.inl ⟨noResponse, Or.inr rfl, by simp, rfl⟩
      | some response => exact Or.inr ⟨response, rfl, rfl⟩

/-- A message makes the loop panic exactly if a line about it is logged whose text cannot be
cut. -/
theorem handle_message_panicked_iff (config : AgentLoopConfig) (msg : Message) (hub : Hub) :
    (handleMessage config msg hub).panicked = true ↔
      config.infoEnabled = true ∧ ¬ AllCuttable config (msg, hub) := by
  cases hlog : logTruncated config msg.content with
  | none =>
      obtain ⟨henabled, hcut⟩ := log_truncated_eq_none_iff.mp hlog
      simp [handleMessage, hlog, henabled, AllCuttable, hcut]
  | some _ =>
      have hcontent : config.infoEnabled = true → Cuttable msg.content := by
        intro henabled
        by_contra hcut
        rw [log_truncated_eq_none_iff.mpr ⟨henabled, hcut⟩] at hlog
        cases hlog
      cases hhub : config.hubUrl with
      | none =>
          simp only [handleMessage, hlog, hhub, AllCuttable]
          simpa using hcontent
      | some hubUrl =>
          rcases handle_message_hub_cases hhub hlog hub with
            ⟨text, -, hnone, heq⟩ | ⟨response, hcompletes, heq⟩
          · simp only [heq, AllCuttable, hhub, Option.some.injEq, forall_eq', hnone]
            simpa using hcontent
          -- The task completes with one response, and this is the one that is logged.
          · have hall : AllCuttable config (msg, hub) ↔
                Cuttable msg.content ∧ Cuttable response := by
              simp only [AllCuttable, hhub, Option.some.injEq, forall_eq']
              exact and_congr_right fun _ =>
                ⟨fun h => h response hcompletes, fun h other hother =>
                  hcompletes.unique hother ▸ h⟩
            have hpanics : (handleMessage config msg hub).panicked = true ↔
                logTruncated config response = none := by
              rw [heq]
              cases logTruncated config response <;> simp
            rw [hpanics, log_truncated_eq_none_iff, hall]
            exact and_congr_right fun henabled => by simp [hcontent henabled]

/-- Without a panic a message in hub mode gets one reply, which answers it. -/
theorem handle_message_answers {config : AgentLoopConfig} {hubUrl : String}
    (hhub : config.hubUrl = some hubUrl) {msg : Message} {hub : Hub}
    (h : (handleMessage config msg hub).panicked = false) :
    ∃ reply, (handleMessage config msg hub).replies = [reply] ∧
      Answers hubUrl (msg, hub) reply := by
  cases hlog : logTruncated config msg.content with
  | none => simp [handleMessage, hlog] at h
  | some _ =>
      rcases handle_message_hub_cases hhub hlog hub with
        ⟨text, htext, hnone, heq⟩ | ⟨response, hcompletes, heq⟩
      · exact ⟨⟨msg.sender, text⟩, by rw [heq], rfl, Or.inr ⟨hnone, htext⟩⟩
      · rw [heq] at h ⊢
        cases hresponse : logTruncated config response with
        | none => simp [hresponse] at h
        | some _ => exact ⟨⟨msg.sender, response⟩, rfl, rfl, Or.inl hcompletes⟩

/-- In P2P mode no message gets a reply. -/
theorem handle_message_p2p {config : AgentLoopConfig} (hhub : config.hubUrl = none)
    (msg : Message) (hub : Hub) : (handleMessage config msg hub).replies = [] := by
  unfold handleMessage
  rw [hhub]
  cases logTruncated config msg.content with
  | none => rfl
  | some _ => rfl

/-- Every reply to a message goes to its sender. -/
theorem handle_message_recipient {config : AgentLoopConfig} {msg : Message} {hub : Hub}
    {reply : Reply} (h : reply ∈ (handleMessage config msg hub).replies) :
    reply.recipient = msg.sender := by
  cases hlog : logTruncated config msg.content with
  | none => simp [handleMessage, hlog] at h
  | some _ =>
      cases hhub : config.hubUrl with
      | none => simp [handle_message_p2p hhub] at h
      | some hubUrl =>
          rcases handle_message_hub_cases hhub hlog hub with
            ⟨text, -, -, heq⟩ | ⟨response, -, heq⟩
          · rw [heq, List.mem_singleton] at h
            rw [h]
          · rw [heq] at h
            cases hresponse : logTruncated config response with
            | none => simp [hresponse] at h
            | some _ =>
                rw [hresponse, List.mem_singleton] at h
                rw [h]

/-! ## A batch -/

/-- A batch is handled to its end exactly if no message of it makes the loop panic. -/
theorem handle_batch_panicked_iff (config : AgentLoopConfig) (batch : List (Message × Hub)) :
    (handleBatch config batch).panicked = false ↔
      ∀ received ∈ batch, (handleMessage config received.1 received.2).panicked = false := by
  induction batch with
  | nil => simp [handleBatch]
  | cons received rest ih =>
      obtain ⟨msg, hub⟩ := received
      rw [List.forall_mem_cons, ← ih, handleBatch]
      cases hfirst : (handleMessage config msg hub).panicked with
      | true => simp [hfirst]
      | false => simp

/-- The replies to a batch that is handled to its end are those to its messages, in order. -/
theorem handle_batch_replies {config : AgentLoopConfig} {batch : List (Message × Hub)}
    (h : (handleBatch config batch).panicked = false) :
    (handleBatch config batch).replies =
      batch.flatMap fun received => (handleMessage config received.1 received.2).replies := by
  induction batch with
  | nil => rfl
  | cons received rest ih =>
      obtain ⟨msg, hub⟩ := received
      obtain ⟨hfirst, hrest⟩ :=
        List.forall_mem_cons.mp ((handle_batch_panicked_iff config _).mp h)
      rw [List.flatMap_cons, ← ih ((handle_batch_panicked_iff config rest).mpr hrest),
        handleBatch]
      simp [hfirst]

/-- Handled one by one, the messages of a batch in hub mode get one answer each, in order. -/
theorem flat_map_replies_answers {config : AgentLoopConfig} {hubUrl : String}
    (hhub : config.hubUrl = some hubUrl) {batch : List (Message × Hub)}
    (h : ∀ received ∈ batch, (handleMessage config received.1 received.2).panicked = false) :
    List.Forall₂ (Answers hubUrl) batch
      (batch.flatMap fun received => (handleMessage config received.1 received.2).replies) := by
  induction batch with
  | nil => exact .nil
  | cons received rest ih =>
      obtain ⟨hfirst, hrest⟩ := List.forall_mem_cons.mp h
      obtain ⟨reply, hreply, hanswers⟩ := handle_message_answers hhub hfirst
      rw [List.flatMap_cons, hreply]
      exact .cons hanswers (ih hrest)

/-- A batch gets its replies exactly if the log level hides the lines that cut a text, or every
text that they cut ends by byte 100 or has a character boundary there. -/
theorem one_reply_each_iff (config : AgentLoopConfig) (batch : List (Message × Hub)) :
    OneReplyEach config batch ↔
      (config.infoEnabled = false ∨ ∀ received ∈ batch, AllCuttable config received) := by
  have hpanicked : (handleBatch config batch).panicked = false ↔
      (config.infoEnabled = false ∨ ∀ received ∈ batch, AllCuttable config received) := by
    rw [handle_batch_panicked_iff]
    simp only [← Bool.not_eq_true, handle_message_panicked_iff, not_and, not_not]
    cases config.infoEnabled <;> simp
  rw [← hpanicked]
  refine ⟨And.left, fun h => ⟨h, ?_⟩⟩
  rw [handle_batch_replies h]
  cases hhub : config.hubUrl with
  | none =>
      refine List.flatMap_eq_nil_iff.mpr fun received _ => ?_
      exact handle_message_p2p hhub received.1 received.2
  | some hubUrl =>
      exact flat_map_replies_answers hhub ((handle_batch_panicked_iff config batch).mp h)

/-- A message of 99 ASCII characters and one that takes two bytes. -/
def accented : Message where
  sender := "ADDR"
  content := String.ofList (List.replicate 99 'a' ++ ['é'])

/-- A hub that completes every task with `done`. -/
def promptHub : Hub :=
  .uniform (.ok { status := 201, statusText := "201 Created"
                  json := .ok { id := "t1", state := "submitted" } })
    fun _ => .ok { status := 200, statusText := "200 OK"
                   json := .ok { state := "completed", response := some "done" } }

/-- Byte 100 of the message is inside a character: the loop panics before it replies. -/
theorem accented_message_panics :
    ¬ OneReplyEach { hubUrl := some "http://localhost:3578", infoEnabled := true }
      [(accented, promptHub)] := by
  intro ⟨h, _⟩
  have hsize : Utf8.size (List.replicate 99 'a') = 99 := by decide
  have hcut : ¬ Cuttable accented.content := by
    unfold Cuttable accented
    rw [String.toList_ofList, not_or, Utf8.size_append, hsize]
    refine ⟨by decide, Utf8.not_is_boundary_inside ?_ ?_⟩
    · rw [hsize]
      decide
    · rw [hsize]
      decide
  have hmessage := (handle_batch_panicked_iff _ _).mp h _ (List.mem_singleton_self _)
  have hpanics := (handle_message_panicked_iff
    { hubUrl := some "http://localhost:3578", infoEnabled := true } accented promptHub).mpr
      ⟨rfl, fun hall => hcut hall.1⟩
  rw [hpanics] at hmessage
  cases hmessage

/-! ## The whole loop -/

/-- The messages of a sync; a failed sync returns none. -/
def received : Except String (List (Message × Hub)) → List (Message × Hub)
  | .ok batch => batch
  | .error _ => []

/-- A batch is handled as its two parts one after the other. -/
theorem handle_batch_append (config : AgentLoopConfig) (first second : List (Message × Hub)) :
    handleBatch config (first ++ second) =
      if (handleBatch config first).panicked then handleBatch config first
      else { replies := (handleBatch config first).replies ++ (handleBatch config second).replies
             panicked := (handleBatch config second).panicked } := by
  induction first with
  | nil => simp [handleBatch]
  | cons received rest ih =>
      obtain ⟨msg, hub⟩ := received
      rw [List.cons_append, handleBatch, ih, handleBatch]
      cases hmessage : (handleMessage config msg hub).panicked with
      | true => simp [hmessage]
      | false =>
          cases hrest : (handleBatch config rest).panicked with
          | true => simp [hrest]
          | false => simp [hrest]

/-- Syncs are handled as if they had returned their messages at once, so what holds of a batch
holds of every run of the loop. -/
theorem run_message_loop_eq (config : AgentLoopConfig)
    (syncs : List (Except String (List (Message × Hub)))) :
    runMessageLoop config syncs = handleBatch config (syncs.flatMap received) := by
  induction syncs with
  | nil => rfl
  | cons sync rest ih =>
      cases sync with
      | error text =>
          rw [List.flatMap_cons, runMessageLoop, ih]
          rfl
      | ok batch =>
          rw [List.flatMap_cons, runMessageLoop, ih]
          exact (handle_batch_append config batch _).symm

end CorvidNano.Agent.MessageLoop
