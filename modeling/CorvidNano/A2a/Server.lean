import CorvidNano.A2a.Lifecycle
import CorvidNano.A2a.Request
import CorvidNano.Library.Json

/-!
# The connections of the A2A server

`serve_a2a` reads one request from a connection, checks its bearer token if a key is configured,
and routes it to a handler. `unauthenticated_blind` is the main result: a request without the
right token gets a response that depends on nothing but the request, and changes nothing.
`serve_connection_run` connects the handlers to the task lifecycle: what a connection does to the
state is a run of lifecycle events.
-/

namespace CorvidNano.A2a

open Lifecycle Runs

/-- `CreateTaskRequest`. The field `from` of the source is `sender` here. -/
structure CreateTaskRequest where
  message : String
  timeoutMs : Nat
  sender : Option String

/-- `serde_json`: reading the body of a creation request, and writing a value. -/
structure Serde where
  createTaskRequest : String → Except String CreateTaskRequest
  toString : Json → String

/-- What a connection task takes from the server's configuration. -/
structure A2aServerConfig where
  psk : Option String
  hubUrl : Option String
  cardJson : String

/-- A status code and a body. -/
structure Response where
  status : Nat
  body : String
  deriving DecidableEq

/-- The name of a state in JSON. -/
def TaskState.name : TaskState → String
  | .pending => "pending"
  | .running => "running"
  | .completed => "completed"
  | .failed => "failed"
  | .cancelled => "cancelled"

/-- A task in JSON. An absent field is left out. -/
def Task.toJson (task : Task) : Json :=
  .object
    ([("id", .string task.id), ("state", .string task.state.name),
        ("message", .string task.message)] ++
      (task.response.map fun text => ("response", Json.string text)).toList ++
      [("created_at", .number task.createdAt 0)] ++
      (task.completedAt.map fun time => ("completed_at", Json.number time 0)).toList ++
      (task.sender.map fun text => ("from", Json.string text)).toList)

/-! ## Handlers -/

section Handlers

variable (serde : Serde)

/-- A body `{"error": …}`. -/
def errorBody (text : String) : String :=
  serde.toString (.object [("error", .string text)])

/-- `handle_create_task`. It is `none` where the insertion does not return. -/
def handleCreateTask (body : String) (now : Nat) (state : State) : Option (Response × State) :=
  match serde.createTaskRequest body with
  | .error e => some ({ status := 400, body := errorBody serde ("invalid request: " ++ e) }, state)
  | .ok req =>
      let taskId := generateTaskId now state.counter
      (state.store.insert (newTask taskId now req.message req.sender)).map fun store =>
        ({ status := 201
           body := serde.toString (.object [("id", .string taskId), ("state", .string "pending")]) },
          { state with
            store
            counter := state.counter + 1
            workers := state.workers ++
              [{ taskId, message := req.message, phase := .spawned }]
            inserted := state.inserted ++ [taskId] })

/-- `handle_list_tasks`. -/
def handleListTasks (state : State) : Response where
  status := 200
  body := serde.toString (.array ((state.store.list 50).map Task.toJson))

/-- `handle_get_task`. -/
def handleGetTask (id : String) (state : State) : Response :=
  match state.store.get id with
  | some task => { status := 200, body := serde.toString task.toJson }
  | none => { status := 404, body := "\x7b\"error\":\"task not found\"\x7d" }

/-- `handle_cancel_task`. -/
def handleCancelTask (id : String) (now : Nat) (state : State) : Response × State :=
  match state.store.get id with
  | some task =>
      if task.state = .pending ∨ task.state = .running then
        ({ status := 200, body := "\x7b\"status\":\"cancelled\"\x7d" },
          { state with
            store := state.store.set id { task with state := .cancelled, completedAt := some now } })
      else
        ({ status := 409, body := errorBody serde ("task already " ++ task.state.name) }, state)
  | none => ({ status := 404, body := "\x7b\"error\":\"task not found\"\x7d" }, state)

/-- `route`. -/
def route (method path body cardJson : String) (now : Nat) (state : State) :
    Option (Response × State) :=
  if method = "GET" ∧ path = "/.well-known/agent.json" then
    some ({ status := 200, body := cardJson }, state)
  else if method = "GET" ∧ path = "/health" then
    some ({ status := 200, body := serde.toString (.object [("status", .string "healthy")]) }, state)
  else if method = "POST" ∧ path = "/a2a/tasks" then handleCreateTask serde body now state
  else if method = "GET" ∧ path = "/a2a/tasks" then some (handleListTasks serde state, state)
  else if "/a2a/tasks/".toList.isPrefixOf path.toList then
    let id := String.ofList (path.toList.drop 11)
    if id = "" then
      some ({ status := 400, body := "\x7b\"error\":\"missing task id\"\x7d" }, state)
    else if method = "GET" then some (handleGetTask serde id state, state)
    else if method = "DELETE" then some (handleCancelTask serde id now state)
    else some ({ status := 405, body := "\x7b\"error\":\"method not allowed\"\x7d" }, state)
  else if method = "OPTIONS" then some ({ status := 204, body := "" }, state)
  else some ({ status := 404, body := "\x7b\"error\":\"not found\"\x7d" }, state)

end Handlers

/-! ## The connection task -/

/-- The value of the first header named `authorization`, in any case. -/
def authHeader (headers : List (String × String)) : Option String :=
  (headers.find? fun header => Text.lower header.1.toList == "authorization".toList).map Prod.snd

/-- The header carries the expected key. -/
def authenticated (expectedPsk : String) (headers : List (String × String)) : Bool :=
  match authHeader headers with
  | some h =>
      if "Bearer ".toList.isPrefixOf h.toList then
        String.ofList (h.toList.drop 7) == expectedPsk
      else false
  | none => false

/-- The reason phrase of `write_response`. -/
def statusText (status : Nat) : String :=
  match status with
  | 200 => "OK"
  | 201 => "Created"
  | 204 => "No Content"
  | 400 => "Bad Request"
  | 401 => "Unauthorized"
  | 404 => "Not Found"
  | 405 => "Method Not Allowed"
  | 409 => "Conflict"
  | _ => "Unknown"

/-- The text that `write_response` writes. -/
def writeResponse (response : Response) : String :=
  let cors := "Access-Control-Allow-Origin: *\r\n" ++
    "Access-Control-Allow-Methods: GET, POST, DELETE, OPTIONS\r\n" ++
    "Access-Control-Allow-Headers: Content-Type, Authorization"
  let statusLine := "HTTP/1.1 " ++ response.status.repr ++ " " ++ statusText response.status ++ "\r\n"
  if response.status = 204 then statusLine ++ cors ++ "\r\nConnection: close\r\n\r\n"
  else
    statusLine ++ "Content-Type: application/json\r\nContent-Length: " ++
      (Utf8.size response.body.toList).repr ++ "\r\n" ++ cors ++
      "\r\nConnection: close\r\n\r\n" ++ response.body

/-- The response to a text that is no request. -/
def badRequest : Response where
  status := 400
  body := "\x7b\"error\":\"bad request\"\x7d"

/-- The response to a request without the key. -/
def unauthorized : Response where
  status := 401
  body := "\x7b\"error\":\"unauthorized\"\x7d"

/-- The request that the first read of a connection holds. -/
def readRequest (received : List UInt8) : Option HttpRequest :=
  parseHttpRequest (Utf8.fromUtf8Lossy (received.take 65536))

/-- The connection task on what its read returns, an error or some bytes: the text it writes, if
any, and the state it leaves. -/
def serveConnection (serde : Serde) (config : A2aServerConfig)
    (received : Except String (List UInt8)) (now : Nat) (state : State) :
    Option (Option String × State) :=
  match received with
  | .error _ => some (none, state)
  | .ok [] => some (none, state)
  | .ok bytes =>
      match readRequest bytes with
      | none =>
          some (some (writeResponse badRequest), state)
      | some request =>
          let refused :=
            match config.psk with
            | some expectedPsk =>
                !authenticated expectedPsk request.headers &&
                  request.path != "/.well-known/agent.json"
            | none => false
          if refused then
            some (some (writeResponse unauthorized), state)
          else
            (route serde request.method request.path request.body config.cardJson now state).map
              fun (response, next) => (some (writeResponse response), next)

/-! ## Requests without the key -/

/-- The token is checked as a whole. -/
theorem authenticated_iff {expectedPsk : String} {headers : List (String × String)} :
    authenticated expectedPsk headers = true ↔
      authHeader headers = some ("Bearer " ++ expectedPsk) := by
  unfold authenticated
  cases authHeader headers with
  | none => simp
  | some h =>
      have hlength : "Bearer ".toList.length = 7 := by decide
      simp only [List.isPrefixOf_iff_prefix, Option.some.injEq]
      constructor
      · intro hcheck
        split at hcheck
        case isTrue hbearer =>
          obtain ⟨rest, hrest⟩ := hbearer
          have hkey : rest = expectedPsk.toList := by
            rw [← hrest, ← hlength, List.drop_left, beq_iff_eq] at hcheck
            rw [← hcheck, String.toList_ofList]
          rw [← String.toList_inj, ← hrest, hkey, String.toList_append]
        case isFalse => cases hcheck
      · rintro rfl
        rw [String.toList_append, if_pos ⟨_, rfl⟩, ← hlength, List.drop_left]
        simp

/-- The card's path leads to no handler that sees the store. -/
theorem route_card (serde : Serde) (method body cardJson : String) :
    ∃ response, ∀ now state,
      route serde method "/.well-known/agent.json" body cardJson now state =
        some (response, state) := by
  have hother : "/a2a/tasks/".toList.isPrefixOf "/.well-known/agent.json".toList = false := by
    decide
  unfold route
  simp only [hother]
  by_cases hget : method = "GET"
  · exact ⟨{ status := 200, body := cardJson }, fun now state => by simp [hget]⟩
  · by_cases hoptions : method = "OPTIONS"
    · exact ⟨{ status := 204, body := "" }, fun now state => by simp [hoptions]⟩
    · exact ⟨_, fun now state => by simp [hget, hoptions]; rfl⟩

/-- With a key configured, a request whose head cannot be parsed, or whose first `Authorization`
header is absent or not exactly `Bearer` and the key, gets the same response in every state and
leaves that state as it is. -/
theorem unauthenticated_blind (serde : Serde) (config : A2aServerConfig) {psk : String}
    (hpsk : config.psk = some psk) {bytes : List UInt8}
    (hauth : ∀ request, readRequest bytes = some request →
      authHeader request.headers ≠ some ("Bearer " ++ psk)) :
    ∃ response, ∀ now state,
      serveConnection serde config (.ok bytes) now state = some (response, state) := by
  unfold serveConnection
  cases bytes with
  | nil => exact ⟨none, fun _ _ => rfl⟩
  | cons byte rest =>
      cases hread : readRequest (byte :: rest) with
      | none => exact ⟨some (writeResponse badRequest), fun _ _ => by simp [hread]⟩
      | some request =>
          have hrejected : authenticated psk request.headers = false := by
            rw [← Bool.not_eq_true, authenticated_iff]
            exact hauth request hread
          simp only [hread, hpsk, hrejected, Bool.not_false, Bool.true_and]
          -- Without the key only the card is routed.
          by_cases hcard : request.path = "/.well-known/agent.json"
          · obtain ⟨response, hroute⟩ :=
              route_card serde request.method request.body config.cardJson
            exact ⟨some (writeResponse response), fun now state => by simp [hcard, hroute]⟩
          · exact ⟨some (writeResponse unauthorized), fun now state => by simp [hcard]⟩

/-- A request that lists the tasks without an `Authorization` header. -/
def listWithoutKey : List UInt8 :=
  "GET /a2a/tasks HTTP/1.1\r\nHost: nano\r\n\r\n".toList.map fun c => UInt8.ofNat c.toNat

theorem list_without_key_blind :
    ∃ response, ∀ now state,
      serveConnection
        { createTaskRequest := fun _ => .error "EOF while parsing a value at line 1 column 0"
          toString := fun _ => "\x7b\"status\":\"healthy\"\x7d" }
        { psk := some "secret", hubUrl := none, cardJson := "\x7b\x7d" }
        (.ok listWithoutKey) now state = some (response, state) := by
  have hread : readRequest listWithoutKey =
      some { method := "GET", path := "/a2a/tasks", headers := [("Host", "nano")], body := "" } := by
    decide
  refine unauthenticated_blind _ _ rfl ?_
  intro request hrequest
  rw [hread, Option.some.injEq] at hrequest
  rw [← hrequest]
  decide

/-! ## Connections and the lifecycle -/

section Run

variable {serde : Serde} {state next : State} {response : Response}

/-- A creation request draws an identifier and inserts its task. -/
theorem handle_create_task_run {body : String} {now : Nat} (hubUrl : Option String)
    (h : handleCreateTask serde body now state = some (response, next)) :
    ∃ events, run (step hubUrl) state events = some next := by
  unfold handleCreateTask at h
  cases hrequest : serde.createTaskRequest body with
  | error e =>
      simp only [hrequest, Option.some.injEq, Prod.mk.injEq] at h
      exact ⟨[], by rw [run_nil, h.2]⟩
  | ok req =>
      simp only [hrequest, Option.map_eq_some_iff, Prod.mk.injEq] at h
      obtain ⟨store, hstore, -, rfl⟩ := h
      refine ⟨[.reserve now req.message req.sender, .insert state.reserved.length], ?_⟩
      simp [run, step, hstore, List.eraseIdx_append_of_length_le]
      simp [newTask]

/-- A cancellation request is a cancellation. -/
theorem handle_cancel_task_run (hubUrl : Option String) (id : String) (now : Nat)
    (state : State) :
    step hubUrl state (.cancel id now) = some (handleCancelTask serde id now state).2 := by
  simp only [step, handleCancelTask, cancelTask]
  cases state.store.get id with
  | none => rfl
  | some task =>
      by_cases hactive : task.state = .pending ∨ task.state = .running
      · simp [hactive]
      · simp [hactive]

/-- What a routed request does to the state is a run of the lifecycle. -/
theorem route_run {method path body cardJson : String} {now : Nat} (hubUrl : Option String)
    (h : route serde method path body cardJson now state = some (response, next)) :
    ∃ events, run (step hubUrl) state events = some next := by
  have hsame : ∀ {result : Response}, some (result, state) = some (response, next) →
      ∃ events, run (step hubUrl) state events = some next := by
    intro result heq
    exact ⟨[], by rw [run_nil, (Prod.mk.inj (Option.some.inj heq)).2]⟩
  unfold route at h
  dsimp only at h
  -- Of all routes only creation and cancellation write to the store.
  split_ifs at h with hcard hhealth hcreate hlist htask hid hget hdelete hoptions
  · exact hsame h
  · exact hsame h
  · exact handle_create_task_run hubUrl h
  · exact hsame h
  · exact hsame h
  · exact hsame h
  · refine ⟨[.cancel (String.ofList (path.toList.drop 11)) now], ?_⟩
    have hcancel : step hubUrl state (.cancel (String.ofList (path.toList.drop 11)) now) =
        some (handleCancelTask serde (String.ofList (path.toList.drop 11)) now state).2 :=
      handle_cancel_task_run hubUrl _ now state
    rw [Option.some.inj h] at hcancel
    exact run_cons_eq_some.mpr ⟨next, hcancel, rfl⟩
  · exact hsame h
  · exact hsame h
  · exact hsame h

/-- What a connection does to the state is a run of the lifecycle, so whatever holds in every
run holds of a server under any sequence of connections. -/
theorem serve_connection_run {config : A2aServerConfig} {received : Except String (List UInt8)}
    {now : Nat} {written : Option String}
    (h : serveConnection serde config received now state = some (written, next)) :
    ∃ events, run (step config.hubUrl) state events = some next := by
  have hsame : ∀ {text : Option String}, some (text, state) = some (written, next) →
      ∃ events, run (step config.hubUrl) state events = some next := by
    intro text heq
    exact ⟨[], by rw [run_nil, (Prod.mk.inj (Option.some.inj heq)).2]⟩
  unfold serveConnection at h
  split at h
  case h_1 => exact hsame h
  case h_2 => exact hsame h
  case h_3 bytes _ =>
    split at h
    case h_1 => exact hsame h
    case h_2 request _ =>
      dsimp only at h
      split_ifs at h
      · exact hsame h
      · obtain ⟨⟨response, after⟩, hroute, heq⟩ := Option.map_eq_some_iff.mp h
        rw [← (Prod.mk.inj heq).2]
        exact route_run config.hubUrl hroute

end Run

end CorvidNano.A2a
