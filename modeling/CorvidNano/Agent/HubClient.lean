import Mathlib.Data.List.DropRight
import Mathlib.Tactic.TypeStar

/-!
# The three clients of the hub's task endpoint

`forward_to_hub` and `poll_hub_task` of `agent.rs`, `HubPlugin::forward_and_get_response` of
`hub.rs` and `forward_to_hub_and_poll` of `a2a.rs`. Each submits a message and then polls the
task until it ends, at most a hundred times.

`agree_iff` is the main result: the three come to the same outcome unless a poll that does not
reach the hub comes before a successful end of the task. The first two clients poll again after
such an error and the third gives up.
-/

namespace CorvidNano.Agent.HubClient

/-- The JSON payload of a submission. -/
structure HubTaskRequest where
  message : String
  timeoutMs : Nat
  deriving DecidableEq

/-- The hub's answer to a submission. -/
structure HubTaskResponse where
  id : String
  state : String
  deriving DecidableEq

/-- The hub's answer to a poll. An absent `response` is `none`. -/
structure HubTaskStatus where
  state : String
  response : Option String
  deriving DecidableEq

/-- An HTTP response: its status code, the status as `StatusCode` displays it, and its body as
`json` decodes it. -/
structure HttpResponse (Body : Type*) where
  status : Nat
  statusText : String
  json : Except String Body

/-- `StatusCode::is_success`. -/
def HttpResponse.isSuccess {Body : Type*} (response : HttpResponse Body) : Bool :=
  decide (200 ≤ response.status ∧ response.status < 300)

/-- What `send` returns: a response, or the text of a transport error. -/
abbrev HttpResult (Body : Type*) := Except String (HttpResponse Body)

/-- A hub as its clients see it: its answer to a submission at a URL, and to the attempts to
poll a URL, counted from 1. -/
structure Hub where
  submit : String → HubTaskRequest → HttpResult HubTaskResponse
  poll : String → Nat → HttpResult HubTaskStatus

/-- A hub that answers alike at every URL and to every message. -/
def Hub.uniform (submitted : HttpResult HubTaskResponse)
    (polled : Nat → HttpResult HubTaskStatus) : Hub where
  submit _ _ := submitted
  poll _ := polled

/-- `HUB_POLL_MAX_ATTEMPTS`, and `max_attempts` in `a2a.rs`. -/
def hubPollMaxAttempts : Nat := 100

/-- `trim_end_matches('/')`. -/
def trimEndSlashes (url : String) : String :=
  String.ofList (url.toList.rdropWhile (· == '/'))

/-- The URL of a submission. -/
def submitUrl (hubUrl : String) : String :=
  trimEndSlashes hubUrl ++ "/a2a/tasks/send"

/-- The URL at which a task is polled. -/
def statusUrl (hubUrl taskId : String) : String :=
  trimEndSlashes hubUrl ++ "/a2a/tasks/" ++ taskId

/-- The answers to the attempts at a task that the poll limit admits. -/
def attempts (hub : Hub) (hubUrl taskId : String) : List (HttpResult HubTaskStatus) :=
  (List.range' 1 hubPollMaxAttempts).map (hub.poll (statusUrl hubUrl taskId))

/-- The payload for a message from AlgoChat. -/
def algoChatRequest (sender content : String) : HubTaskRequest where
  message := "[AlgoChat from " ++ sender ++ "] " ++ content
  timeoutMs := 300000

/-! ## `agent.rs` -/

/-- `forward_to_hub`. -/
def forwardToHub (hub : Hub) (hubUrl sender content : String) : Option String :=
  match hub.submit (submitUrl hubUrl) (algoChatRequest sender content) with
  | .ok resp =>
      if resp.isSuccess then
        match resp.json with
        | .ok task => some task.id
        | .error _ => none
      else none
  | .error _ => none

/-- The loop of `poll_hub_task` over the answers to its attempts. -/
def pollHubTaskLoop : List (HttpResult HubTaskStatus) → Option String
  | [] => none
  | .ok resp :: rest =>
      if !resp.isSuccess then pollHubTaskLoop rest
      else
        match resp.json with
        | .ok status =>
            if status.state = "completed" then status.response
            else if status.state = "failed" ∨ status.state = "cancelled" then none
            else pollHubTaskLoop rest
        | .error _ => pollHubTaskLoop rest
  | .error _ :: rest => pollHubTaskLoop rest

/-- `poll_hub_task`. -/
def pollHubTask (hub : Hub) (hubUrl taskId : String) : Option String :=
  pollHubTaskLoop (attempts hub hubUrl taskId)

/-! ## `hub.rs` -/

/-- The second step of `forward_and_get_response`, over the answers to its attempts. -/
def getResponseLoop : List (HttpResult HubTaskStatus) → Option String
  | [] => none
  | outcome :: rest =>
      match outcome with
      | .ok resp =>
          if resp.isSuccess then
            match resp.json with
            | .ok status =>
                if status.state = "completed" then status.response
                else if status.state = "failed" ∨ status.state = "cancelled" then none
                else getResponseLoop rest
            | .error _ => getResponseLoop rest
          else getResponseLoop rest
      | .error _ => getResponseLoop rest

/-- `HubPlugin::forward_and_get_response`. -/
def forwardAndGetResponse (hub : Hub) (hubUrl sender content : String) : Option String :=
  match hub.submit (submitUrl hubUrl) (algoChatRequest sender content) with
  | .ok resp =>
      if resp.isSuccess then
        match resp.json with
        | .ok task => getResponseLoop (attempts hub hubUrl task.id)
        | .error _ => none
      else none
  | .error _ => none

/-! ## `a2a.rs` -/

/-- The poll loop of `forward_to_hub_and_poll` over the answers to its attempts. The `?` on the
answer leaves the function at a transport error. -/
def pollForCompletion : List (HttpResult HubTaskStatus) → Except String String
  | [] => .error "hub task timed out"
  | .error text :: _ => .error ("hub poll error: " ++ text)
  | .ok resp :: rest =>
      if !resp.isSuccess then pollForCompletion rest
      else
        match resp.json with
        | .error _ => pollForCompletion rest
        | .ok status =>
            if status.state = "completed" then
              match status.response with
              | some text => .ok text
              | none => .error "hub returned completed with no response"
            else if status.state = "failed" ∨ status.state = "cancelled" then
              .error ("hub task " ++ status.state)
            else pollForCompletion rest

/-- `forward_to_hub_and_poll`. -/
def forwardToHubAndPoll (hub : Hub) (hubUrl message : String) : Except String String :=
  match hub.submit (submitUrl hubUrl) { message, timeoutMs := 300000 } with
  | .error text => .error ("hub unreachable: " ++ text)
  | .ok resp =>
      if !resp.isSuccess then .error ("hub rejected request: " ++ resp.statusText)
      else
        match resp.json with
        | .error text => .error ("hub response parse error: " ++ text)
        | .ok task => pollForCompletion (attempts hub hubUrl task.id)

/-! ## One answer to a poll -/

/-- A state in which no client polls on. -/
def isTerminal (state : String) : Bool :=
  decide (state = "completed" ∨ state = "failed" ∨ state = "cancelled")

/-- The status of a task that the answer reports to have ended. -/
def terminalStatus : HttpResult HubTaskStatus → Option HubTaskStatus
  | .error _ => none
  | .ok resp =>
      if resp.isSuccess then
        match resp.json with
        | .ok status => if isTerminal status.state then some status else none
        | .error _ => none
      else none

/-- The response text of a task that has ended. -/
def HubTaskStatus.result (status : HubTaskStatus) : Option String :=
  if status.state = "completed" then status.response else none

/-- The answer reports that the task has completed with a response. -/
def Completes (outcome : HttpResult HubTaskStatus) (text : String) : Prop :=
  terminalStatus outcome = some { state := "completed", response := some text }

/-- A terminal status with a response text is that of a completed task. -/
theorem result_eq_some_iff {status : HubTaskStatus} {text : String} :
    status.result = some text ↔ status = { state := "completed", response := some text } := by
  unfold HubTaskStatus.result
  constructor
  · intro h
    split at h
    case isTrue hstate =>
      rw [← hstate, ← h]
    case isFalse => cases h
  · rintro rfl
    rfl

/-- `poll_hub_task` passes over every answer up to the first that ends the task. -/
theorem poll_hub_task_loop_cons (outcome : HttpResult HubTaskStatus)
    (rest : List (HttpResult HubTaskStatus)) :
    pollHubTaskLoop (outcome :: rest) =
      match terminalStatus outcome with
      | some status => status.result
      | none => pollHubTaskLoop rest := by
  cases outcome with
  | error text => rfl
  | ok resp =>
      rw [pollHubTaskLoop]
      cases hsuccess : resp.isSuccess with
      | false => simp [terminalStatus, hsuccess]
      | true =>
          cases hjson : resp.json with
          | error text => simp [terminalStatus, hsuccess, hjson]
          | ok status =>
              simp only [terminalStatus, hsuccess, hjson, isTerminal, HubTaskStatus.result]
              by_cases hcompleted : status.state = "completed"
              · simp [hcompleted]
              · by_cases hended : status.state = "failed" ∨ status.state = "cancelled"
                · simp [hcompleted, hended]
                · simp [hcompleted, hended]

/-- The loop of the plugin treats every answer as `poll_hub_task` does. -/
theorem get_response_loop_eq (outcomes : List (HttpResult HubTaskStatus)) :
    getResponseLoop outcomes = pollHubTaskLoop outcomes := by
  induction outcomes with
  | nil => rfl
  | cons outcome rest ih =>
      cases outcome with
      | error text => rw [getResponseLoop, pollHubTaskLoop, ih]
      | ok resp =>
          rw [getResponseLoop, pollHubTaskLoop, ih]
          cases resp.isSuccess with
          | false => rfl
          | true => rfl

/-- The loop of the A2A server passes over an answer that reports no end. -/
theorem poll_for_completion_of_not_terminal {resp : HttpResponse HubTaskStatus}
    (h : terminalStatus (.ok resp) = none) (rest : List (HttpResult HubTaskStatus)) :
    pollForCompletion (.ok resp :: rest) = pollForCompletion rest := by
  unfold terminalStatus at h
  rw [pollForCompletion]
  cases hsuccess : resp.isSuccess with
  | false => simp
  | true =>
      cases hjson : resp.json with
      | error text => simp
      | ok status =>
          have hrunning : isTerminal status.state = false := by
            simpa [hsuccess, hjson] using h
          have hstate : ¬ (status.state = "completed" ∨ status.state = "failed" ∨
              status.state = "cancelled") := by
            simpa [isTerminal] using hrunning
          simp only [not_or] at hstate
          simp [hstate]

/-- An answer reports an end only as a decoded status with success. -/
theorem terminal_status_eq_some {outcome : HttpResult HubTaskStatus} {status : HubTaskStatus}
    (h : terminalStatus outcome = some status) :
    ∃ resp, outcome = .ok resp ∧ resp.isSuccess = true ∧ resp.json = .ok status ∧
      isTerminal status.state = true := by
  cases outcome with
  | error text => cases h
  | ok resp =>
      unfold terminalStatus at h
      cases hsuccess : resp.isSuccess with
      | false => simp [hsuccess] at h
      | true =>
          cases hjson : resp.json with
          | error text => simp [hsuccess, hjson] at h
          | ok read =>
              have hread : isTerminal read.state = true ∧ read = status := by
                simpa [hsuccess, hjson] using h
              obtain ⟨hterminal, rfl⟩ := hread
              exact ⟨resp, rfl, hsuccess, hjson, hterminal⟩

/-- At an end of the task it succeeds as `poll_hub_task` does. -/
theorem poll_for_completion_of_terminal {outcome : HttpResult HubTaskStatus}
    {status : HubTaskStatus} (h : terminalStatus outcome = some status)
    (rest : List (HttpResult HubTaskStatus)) (text : String) :
    pollForCompletion (outcome :: rest) = .ok text ↔ status.result = some text := by
  obtain ⟨resp, rfl, hsuccess, hjson, hterminal⟩ := terminal_status_eq_some h
  rw [pollForCompletion]
  simp only [hsuccess, hjson]
  unfold HubTaskStatus.result
  by_cases hcompleted : status.state = "completed"
  · cases hresponse : status.response <;> simp [hcompleted]
  · have hended : status.state = "failed" ∨ status.state = "cancelled" := by
      simpa [isTerminal, hcompleted] using hterminal
    simp [hcompleted, hended]

/-! ## Sequences of answers -/

/-- `poll_hub_task` returns a text only after answers that report no end, at one that reports
the completed task with this text. -/
theorem poll_hub_task_loop_eq_some_iff {outcomes : List (HttpResult HubTaskStatus)}
    {text : String} :
    pollHubTaskLoop outcomes = some text ↔
      ∃ before last after, outcomes = before ++ last :: after ∧ Completes last text ∧
        ∀ outcome ∈ before, terminalStatus outcome = none := by
  induction outcomes with
  | nil => simp [pollHubTaskLoop]
  | cons outcome rest ih =>
      rw [poll_hub_task_loop_cons]
      cases hterminal : terminalStatus outcome with
      | some status =>
          constructor
          · intro h
            have hcompletes : Completes outcome text := by
              rw [Completes, hterminal, result_eq_some_iff.mp h]
            exact ⟨[], outcome, rest, rfl, hcompletes, by simp⟩
          · intro ⟨before, last, after, heq, hlast, hbefore⟩
            cases before with
            -- An answer that ends the task is the first that does, so it is the last one read.
            | nil =>
                obtain ⟨rfl, rfl⟩ := List.cons.inj heq
                rw [Completes, hterminal, Option.some.injEq] at hlast
                exact result_eq_some_iff.mpr hlast
            | cons first before =>
                obtain ⟨rfl, -⟩ := List.cons.inj heq
                simp [hbefore outcome List.mem_cons_self] at hterminal
      | none =>
          rw [ih]
          constructor
          · intro ⟨before, last, after, heq, hlast, hbefore⟩
            refine ⟨outcome :: before, last, after, by rw [heq]; rfl, hlast, ?_⟩
            intro other hmem
            rcases List.mem_cons.mp hmem with rfl | hmem
            · exact hterminal
            · exact hbefore other hmem
          · intro ⟨before, last, after, heq, hlast, hbefore⟩
            cases before with
            | nil =>
                obtain ⟨rfl, rfl⟩ := List.cons.inj heq
                rw [Completes, hterminal] at hlast
                cases hlast
            | cons first before =>
                obtain ⟨rfl, hrest⟩ := List.cons.inj heq
                exact ⟨before, last, after, hrest, hlast, fun other hmem =>
                  hbefore other (List.mem_cons_of_mem _ hmem)⟩

/-- Whatever the A2A server returns, `poll_hub_task` returns as well. -/
theorem poll_hub_task_loop_of_poll_for_completion {outcomes : List (HttpResult HubTaskStatus)}
    {text : String} (h : pollForCompletion outcomes = .ok text) :
    pollHubTaskLoop outcomes = some text := by
  induction outcomes with
  | nil => cases h
  | cons outcome rest ih =>
      rw [poll_hub_task_loop_cons]
      cases hterminal : terminalStatus outcome with
      | some status => exact (poll_for_completion_of_terminal hterminal rest text).mp h
      | none =>
          cases outcome with
          | error text => cases h
          | ok resp =>
              rw [poll_for_completion_of_not_terminal hterminal] at h
              exact ih h

/-- The A2A server passes over answers that reach it and report no end. -/
theorem poll_for_completion_append {before rest : List (HttpResult HubTaskStatus)}
    (hbefore : ∀ outcome ∈ before, terminalStatus outcome = none)
    (hreached : ∀ text, .error text ∉ before) :
    pollForCompletion (before ++ rest) = pollForCompletion rest := by
  induction before with
  | nil => rfl
  | cons outcome before ih =>
      cases outcome with
      | error text => exact absurd List.mem_cons_self (hreached text)
      | ok resp =>
          rw [List.cons_append,
            poll_for_completion_of_not_terminal (hbefore _ List.mem_cons_self)]
          exact ih (fun outcome hmem => hbefore outcome (List.mem_cons_of_mem _ hmem))
            fun text hmem => hreached text (List.mem_cons_of_mem _ hmem)

/-- It fails at a transport error that comes before the end of the task. -/
theorem poll_for_completion_of_unreached {before rest : List (HttpResult HubTaskStatus)}
    (hbefore : ∀ outcome ∈ before, terminalStatus outcome = none)
    {text : String} (herror : .error text ∈ before) :
    ∃ failure, pollForCompletion (before ++ rest) = .error failure := by
  induction before with
  | nil => cases herror
  | cons outcome before ih =>
      cases outcome with
      | error first => exact ⟨_, rfl⟩
      | ok resp =>
          rw [List.cons_append,
            poll_for_completion_of_not_terminal (hbefore _ List.mem_cons_self)]
          refine ih (fun outcome hmem => hbefore outcome (List.mem_cons_of_mem _ hmem)) ?_
          simpa using herror

/-! ## Agreement -/

/-- The task identifier of an accepted submission. -/
def accepted : HttpResult HubTaskResponse → Option String
  | .ok resp =>
      if resp.isSuccess then
        match resp.json with
        | .ok task => some task.id
        | .error _ => none
      else none
  | .error _ => none

/-- The answers to the attempts that the poll limit admits. -/
def polls (polled : Nat → HttpResult HubTaskStatus) : List (HttpResult HubTaskStatus) :=
  (List.range' 1 hubPollMaxAttempts).map polled

/-- The three clients come to one outcome for a submission and a sequence of poll outcomes:
the same response text, or each of them fails. -/
def Agree (submitted : HttpResult HubTaskResponse) (polled : Nat → HttpResult HubTaskStatus)
    (hubUrl sender content message : String) : Prop :=
  let hub := Hub.uniform submitted polled
  let agent := (forwardToHub hub hubUrl sender content).bind (pollHubTask hub hubUrl)
  let plugin := forwardAndGetResponse hub hubUrl sender content
  let server := forwardToHubAndPoll hub hubUrl message
  (∃ text, agent = some text ∧ plugin = some text ∧ server = .ok text) ∨
    (agent = none ∧ plugin = none ∧ ∃ failure, server = .error failure)

/-- Some attempt before the one that reports the completed task with its response meets a
transport error. -/
def UnreachedBeforeSuccess (outcomes : List (HttpResult HubTaskStatus)) : Prop :=
  ∃ before last after text, outcomes = before ++ last :: after ∧ Completes last text ∧
    (∀ outcome ∈ before, terminalStatus outcome = none) ∧ ∃ failure, .error failure ∈ before

/-- The plugin's exchange with a hub is that of the message loop. -/
theorem forward_and_get_response_eq (hub : Hub) (hubUrl sender content : String) :
    forwardAndGetResponse hub hubUrl sender content =
      (forwardToHub hub hubUrl sender content).bind (pollHubTask hub hubUrl) := by
  unfold forwardAndGetResponse forwardToHub
  cases hsubmit : hub.submit (submitUrl hubUrl) (algoChatRequest sender content) with
  | error text => simp
  | ok resp =>
      cases hsuccess : resp.isSuccess with
      | false => simp [hsuccess]
      | true =>
          cases hjson : resp.json with
          | error text => simp [hsuccess, hjson]
          | ok task => simp [hsuccess, hjson, pollHubTask, get_response_loop_eq]

section Exchange

variable (submitted : HttpResult HubTaskResponse) (polled : Nat → HttpResult HubTaskStatus)
  (hubUrl sender content message : String)

/-- A message goes to the hub if the submission is accepted. -/
theorem forward_to_hub_eq :
    forwardToHub (.uniform submitted polled) hubUrl sender content = accepted submitted := rfl

/-- Every task is polled with the same answers. -/
theorem poll_hub_task_eq (taskId : String) :
    pollHubTask (.uniform submitted polled) hubUrl taskId = pollHubTaskLoop (polls polled) := rfl

/-- The A2A server polls an accepted task. -/
theorem forward_to_hub_and_poll_of_accepted {taskId : String}
    (h : accepted submitted = some taskId) :
    forwardToHubAndPoll (.uniform submitted polled) hubUrl message =
      pollForCompletion (polls polled) := by
  unfold accepted at h
  cases submitted with
  | error text => cases h
  | ok resp =>
      cases hsuccess : resp.isSuccess with
      | false => simp [hsuccess] at h
      | true =>
          cases hjson : resp.json with
          | error text => simp [hsuccess, hjson] at h
          | ok task => simp [forwardToHubAndPoll, Hub.uniform, hsuccess, hjson, attempts, polls]

/-- It fails if the submission is not accepted. -/
theorem forward_to_hub_and_poll_of_rejected (h : accepted submitted = none) :
    ∃ failure, forwardToHubAndPoll (.uniform submitted polled) hubUrl message =
      .error failure := by
  unfold accepted at h
  cases submitted with
  | error text => exact ⟨_, rfl⟩
  | ok resp =>
      cases hsuccess : resp.isSuccess with
      | false => simp [forwardToHubAndPoll, Hub.uniform, hsuccess]
      | true =>
          cases hjson : resp.json with
          | error text => simp [forwardToHubAndPoll, Hub.uniform, hsuccess, hjson]
          | ok task => simp [hsuccess, hjson] at h

end Exchange

/-- The poll loops agree exactly if no transport error precedes a success. -/
theorem loops_agree_iff (outcomes : List (HttpResult HubTaskStatus)) :
    ((∃ text, pollHubTaskLoop outcomes = some text ∧ pollForCompletion outcomes = .ok text) ∨
        (pollHubTaskLoop outcomes = none ∧
          ∃ failure, pollForCompletion outcomes = .error failure)) ↔
      ¬ UnreachedBeforeSuccess outcomes := by
  constructor
  · rintro hagree ⟨before, last, after, text, rfl, hlast, hbefore, failure, hmem⟩
    -- The agents poll past the transport error to the success, and the server has left at it.
    have hloop := poll_hub_task_loop_eq_some_iff.mpr ⟨before, last, after, rfl, hlast, hbefore⟩
    have hfails : ∃ other, pollForCompletion (before ++ last :: after) = .error other :=
      poll_for_completion_of_unreached hbefore hmem
    obtain ⟨other, hfailed⟩ := hfails
    rcases hagree with ⟨found, -, hfound⟩ | ⟨hnone, -⟩
    · rw [hfailed] at hfound
      cases hfound
    · rw [hloop] at hnone
      cases hnone
  · intro hreached
    cases hloop : pollHubTaskLoop outcomes with
    | some text =>
        obtain ⟨before, last, after, rfl, hlast, hbefore⟩ :=
          poll_hub_task_loop_eq_some_iff.mp hloop
        refine Or.inl ⟨text, rfl, ?_⟩
        rw [poll_for_completion_append hbefore fun failure hmem =>
          hreached ⟨before, last, after, text, rfl, hlast, hbefore, failure, hmem⟩]
        exact (poll_for_completion_of_terminal hlast after text).mpr rfl
    | none =>
        refine Or.inr ⟨rfl, ?_⟩
        cases hserver : pollForCompletion outcomes with
        | ok text =>
            rw [poll_hub_task_loop_of_poll_for_completion hserver] at hloop
            cases hloop
        | error failure => exact ⟨failure, rfl⟩

/-- The three clients agree on a hub's answers exactly if the submission is not accepted or no
transport error comes before the poll that reports success. -/
theorem agree_iff (submitted : HttpResult HubTaskResponse)
    (polled : Nat → HttpResult HubTaskStatus) (hubUrl sender content message : String) :
    Agree submitted polled hubUrl sender content message ↔
      (accepted submitted = none ∨ ¬ UnreachedBeforeSuccess (polls polled)) := by
  unfold Agree
  simp only [forward_to_hub_eq, forward_and_get_response_eq]
  cases haccepted : accepted submitted with
  | none =>
      obtain ⟨failure, hfailure⟩ :=
        forward_to_hub_and_poll_of_rejected submitted polled hubUrl message haccepted
      simp [hfailure]
  | some taskId =>
      rw [forward_to_hub_and_poll_of_accepted submitted polled hubUrl message haccepted]
      simp only [Option.bind_some, poll_hub_task_eq, reduceCtorEq, false_or]
      rw [← loops_agree_iff (polls polled)]
      simp only [← and_assoc, and_self]

/-- Polls of which the first does not reach the hub and the others report the completed task. -/
def flaky : Nat → HttpResult HubTaskStatus
  | 1 => .error "connection reset"
  | _ => .ok { status := 200, statusText := "200 OK"
               json := .ok { state := "completed", response := some "done" } }

/-- After one lost poll the two agents return `done` and the A2A server fails. -/
theorem flaky_poll_disagree :
    ¬ Agree (.ok { status := 201, statusText := "201 Created"
                   json := .ok { id := "t1", state := "submitted" } })
      flaky "http://localhost:3578" "ADDR" "hi" "hi" := by
  rintro (⟨text, -, -, hserver⟩ | ⟨hagent, -⟩)
  · rw [forward_to_hub_and_poll_of_accepted _ _ _ _ (show accepted _ = some "t1" from rfl)]
      at hserver
    cases hserver
  · rw [forward_to_hub_eq] at hagent
    cases hagent

end CorvidNano.Agent.HubClient
