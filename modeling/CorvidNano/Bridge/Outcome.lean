import CorvidNano.Bridge.JsonRpc
import CorvidNano.Host.Response
import CorvidNano.Library.Text

/-!
# A tool's outcome at the TypeScript caller

`PluginBridge.invoke` in `rust-bridge.ts`, composed with the host's reply to `plugin.invoke`. The
plugin wraps its outcome in `{"result": …}` or `{"error": …}`, the host wraps that value in
another `{"result": …}`, and the bridge unwraps one level only.

`outcome_as_intended_iff` is the main result: only for an unknown plugin does the caller see
what the bridge's own branches intend. `tool_error_resolves` is a tool error that the caller
receives as a success.
-/

namespace CorvidNano.Bridge.Outcome

open Host Host.Response Sdk

/-- An `Error` of the bridge, with the fields that it assigns for a draining plugin. -/
structure JsError where
  message : String
  status : Option Nat
  retryable : Bool
  deriving DecidableEq

/-- `new Error(message)`. -/
def JsError.new (message : String) : JsError where
  message := message
  status := none
  retryable := false

/-- How a promise settles. -/
inductive Settled where
  | resolved (value : Json)
  | rejected (error : JsError)

/-- JavaScript's truthiness of a property that may be `undefined`. -/
def truthy : Option Json → Bool
  | none | some .null => false
  | some (.bool value) => value
  | some (.number mantissa _) => mantissa != 0
  | some (.string text) => text != ""
  | some (.array _) | some (.object _) => true

/-- `PLUGIN_ID_RE`, `^[a-z][a-z0-9-]{0,49}$`. -/
def pluginIdRe (text : String) : Bool :=
  Text.matchesName Char.isLower (fun c => c.isLower || c.isDigit || c == '-') 49 text

/-- `TOOL_NAME_RE`, `^[a-z][a-z0-9_-]{0,63}$`. -/
def toolNameRe (text : String) : Bool :=
  Text.matchesName Char.isLower (fun c => c.isLower || c.isDigit || c == '_' || c == '-') 63 text

/-- `handleData` on the response to the pending request `id`: the response settles the
request's promise if it carries that id. -/
def settle (id : Nat) (response : JsonRpcResponse Json) : Option Settled :=
  match response.id with
  | some (.number mantissa 0) =>
      if mantissa = id then
        some (if truthy (response.error.map .string) then
            .rejected (.new (response.error.getD ""))
          else .resolved (response.result.getD .null))
      else none
  | _ => none

/-- What `invoke` makes of the value that its request resolved with. -/
def invokeData (pluginId tool : String) : Json → Settled
  | .null => .rejected (.new "Cannot read properties of null (reading 'unavailable')")
  | data =>
      if truthy (data.get? "unavailable") then
        .rejected { message := "plugin " ++ pluginId ++ " is draining"
                    status := some 503
                    retryable := true }
      else
        match data.get? "error" with
        | none | some .null =>
            match data.get? "result" with
            | none | some .null => .resolved (.string "")
            | some value => .resolved value
        | some (.string text) => .rejected (.new text)
        | some _ =>
            .rejected (.new ("plugin error (" ++ pluginId ++ ":" ++ tool ++ ")"))

/-- `PluginBridge.invoke`, with the result of the host's handler for request `id`. It is `none`
while the request is pending. -/
def invoke (pluginId tool : String) (id : Nat) (host : Except String Json) : Option Settled :=
  if pluginIdRe pluginId = false then
    some (.rejected (.new ("invalid plugin ID: " ++ pluginId)))
  else if toolNameRe tool = false then
    some (.rejected (.new ("invalid tool name: " ++ tool)))
  else
    -- `request` resolves with the response's `result`: the host's envelope is taken off here.
    match settle id (.ofResult host (some (.number id 0))) with
    | some (.resolved data) => some (invokeData pluginId tool data)
    | settled => settled

/-- A tool of a plugin, under names that the bridge accepts. -/
structure ToolName where
  pluginId : String
  tool : String
  pluginId_valid : pluginIdRe pluginId = true
  tool_valid : toolNameRe tool = true

/-- What can become of an invocation: the tool's outcome is returned, the plugin is draining,
seen at the activity check or at the guard, or the plugin is unknown. -/
inductive Scenario (msgpack : Msgpack) where
  | returned (response : Returned msgpack)
  | drainingAtCheck
  | drainingAtGuard
  | unknown

/-- The slot that `handle_invoke` sees. -/
def Scenario.slotView {msgpack : Msgpack} : Scenario msgpack → SlotView
  | .returned response =>
      .acquired (.returned (invokeTool msgpack response.memory response.ptr))
  | .drainingAtCheck => .inactive
  | .drainingAtGuard => .draining
  | .unknown => .missing

/-- The invocation from the caller to the plugin and back. -/
def endToEnd {msgpack : Msgpack} (name : ToolName) (id : Nat) (scenario : Scenario msgpack) :
    Option Settled :=
  invoke name.pluginId name.tool id (handleInvoke name.pluginId scenario.slotView)

/-- What the branches of `invoke` intend for a tool's own outcome: the text of a success, and a
rejection with the text of an error. -/
def ToolAsIntended (outcome : Except PluginError String) (settled : Settled) : Prop :=
  match outcome with
  | .ok text => settled = .resolved (.string text)
  | .error error => ∃ jsError, settled = .rejected jsError ∧ jsError.message = error.display

/-- What the branches of `invoke` intend: the tool's own outcome, a retryable 503 while the
plugin drains, and a rejection for an unknown plugin. -/
def AsIntended {msgpack : Msgpack} (scenario : Scenario msgpack) (settled : Settled) : Prop :=
  match scenario with
  | .returned response => ToolAsIntended response.outcome settled
  | .drainingAtCheck | .drainingAtGuard =>
      ∃ jsError, settled = .rejected jsError ∧ jsError.status = some 503 ∧
        jsError.retryable = true
  | .unknown => ∃ jsError, settled = .rejected jsError

/-! ## What the caller gets -/

variable {msgpack : Msgpack}

/-- With valid names, `invoke` settles by the host's result alone. -/
theorem end_to_end_eq (name : ToolName) (id : Nat) (scenario : Scenario msgpack) :
    endToEnd name id scenario =
      some (match handleInvoke name.pluginId scenario.slotView with
        | .ok data => invokeData name.pluginId name.tool data
        | .error text =>
            if text = "" then invokeData name.pluginId name.tool .null
            else .rejected (.new text)) := by
  unfold endToEnd invoke
  rw [if_neg (by simp [name.pluginId_valid]), if_neg (by simp [name.tool_valid])]
  cases handleInvoke name.pluginId scenario.slotView with
  | ok data => simp [settle, JsonRpcResponse.ofResult, truthy]
  | error text =>
      by_cases hempty : text = ""
      · simp [settle, JsonRpcResponse.ofResult, truthy, hempty]
      · simp [settle, JsonRpcResponse.ofResult, truthy, hempty]

/-- Whatever the tool's outcome, the promise resolves with the plugin's response object. -/
theorem end_to_end_returned (name : ToolName) (id : Nat) (response : Returned msgpack) :
    endToEnd name id (.returned response) =
      some (.resolved (toolResponse response.outcome)) := by
  rw [end_to_end_eq]
  simp only [Scenario.slotView, invoke_tool_returned, handleInvoke]
  cases response.outcome with
  | ok text => simp [invokeData, toolResponse, truthy]
  | error error => simp [invokeData, toolResponse, truthy]

/-- A host error rejects with its text and without a status. -/
theorem end_to_end_host_error (name : ToolName) (id : Nat) {scenario : Scenario msgpack}
    {text : String} (hhost : handleInvoke name.pluginId scenario.slotView = .error text)
    (htext : text ≠ "") : endToEnd name id scenario = some (.rejected (.new text)) := by
  rw [end_to_end_eq, hhost]
  simp [htext]

/-- A rejection without a status is no retryable 503. -/
theorem not_status_of_new (text : String) :
    ¬ ∃ jsError, Settled.rejected (.new text) = .rejected jsError ∧ jsError.status = some 503 ∧
      jsError.retryable = true := by
  rintro ⟨jsError, heq, hstatus, _⟩
  cases heq
  cases hstatus

/-- The plugin's response object is never the intended form of the tool's outcome. -/
theorem not_tool_as_intended (outcome : Except PluginError String) :
    ¬ ToolAsIntended outcome (.resolved (toolResponse outcome)) := by
  cases outcome with
  | ok text =>
      intro hresolved
      cases hresolved
  | error error =>
      rintro ⟨jsError, hrejected, _⟩
      cases hrejected

/-- The caller gets the intended outcome if and only if the plugin is unknown. -/
theorem outcome_as_intended_iff (name : ToolName) (id : Nat) (scenario : Scenario msgpack) :
    (∃ settled, endToEnd name id scenario = some settled ∧ AsIntended scenario settled) ↔
      scenario = .unknown := by
  constructor
  · rintro ⟨settled, hsettled, hintended⟩
    cases scenario with
    | returned response =>
        rw [end_to_end_returned] at hsettled
        cases hsettled
        exact absurd hintended (not_tool_as_intended response.outcome)
    | drainingAtCheck | drainingAtGuard =>
        rw [end_to_end_host_error name id rfl (by simp)] at hsettled
        cases hsettled
        exact absurd hintended (not_status_of_new _)
    | unknown => rfl
  · rintro rfl
    exact ⟨_, end_to_end_host_error name id rfl (by simp), _, rfl⟩

/-- The response of a tool that fails with `execution failed: boom`, in MessagePack. -/
def boomResponse : List UInt8 :=
  [0x81, 0xA5] ++ "error".toList.map (fun c => c.toNat.toUInt8) ++
    [0xB6] ++ "execution failed: boom".toList.map (fun c => c.toNat.toUInt8)

/-- A codec that knows this response. -/
def boomMsgpack : Msgpack where
  toVec _ := boomResponse
  fromSlice bytes :=
    if bytes = boomResponse then some (toolResponse (.error (.exec "boom"))) else none

/-- The failed tool call in a small linear memory. -/
def boomReturned : Returned boomMsgpack where
  outcome := .error (.exec "boom")
  before := [0, 0, 0, 0]
  after := []
  allocated := by decide
  addressable := by decide
  decodes := rfl

/-- A tool error reaches the caller as a success. -/
theorem tool_error_resolves :
    ∃ name : ToolName, endToEnd name 1 (.returned boomReturned) =
        some (.resolved (.object [("error", .string "execution failed: boom")])) ∧
      ∀ settled, endToEnd name 1 (.returned boomReturned) = some settled →
        ¬ AsIntended (.returned boomReturned) settled := by
  refine ⟨⟨"echo", "say", by decide, by decide⟩, ?_, fun settled hsettled => ?_⟩
  · exact end_to_end_returned _ 1 boomReturned
  · cases (end_to_end_returned _ 1 boomReturned).symm.trans hsettled
    exact not_tool_as_intended boomReturned.outcome

end CorvidNano.Bridge.Outcome
