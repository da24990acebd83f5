import CorvidNano.Host.LinearMemory
import CorvidNano.Sdk.Manifest

/-!
# The host's reply to a tool invocation

The way of a tool's outcome out of the plugin: the response that the generated
`__corvid_invoke` encodes, how `invoke_tool` reads it, and the result that `handle_invoke`
returns. `invoke_tool_returned` says that the host gets the response value as the plugin built
it.
-/

namespace CorvidNano.Host.Response

open LinearMemory Sdk

/-- The MessagePack codec that the plugin and the host share. -/
structure Msgpack where
  toVec : Json → List UInt8
  fromSlice : List UInt8 → Option Json

/-- The response value of `__corvid_invoke` for a tool's outcome. -/
def toolResponse : Except PluginError String → Json
  | .ok text => .object [("result", .string text)]
  | .error error => .object [("error", .string error.display)]

/-- The texts of the errors of `read_response`. A panic ends the invocation's thread, which
`handle_invoke` reports. -/
def readErrorText : ReadError → String
  | .pointerOutOfBounds => "result pointer out of bounds"
  | .dataOutOfBounds len => "result data out of bounds (len=" ++ toString len ++ ")"
  | .panicked => "plugin panicked during invocation"

/-- What `invoke_tool` makes of the pointer that `__corvid_invoke` returned. -/
def invokeTool (msgpack : Msgpack) (memory : List UInt8) (ptr : BitVec 32) :
    Except String Json :=
  if ptr = 0 then .error "plugin returned null from __corvid_invoke"
  else
    match readPrefixed memory ptr with
    | .error error => .error (readErrorText error)
    | .ok bytes =>
        match msgpack.fromSlice bytes with
        | none => .error "failed to deserialize tool result"
        | some value => .ok value

/-- How the blocking invocation ended: it returned, or the limit of its tier passed first. -/
inductive Invocation where
  | returned (result : Except String Json)
  | timedOut (limit : String)

/-- What `handle_invoke` finds when it looks the plugin up and asks for a guard. -/
inductive SlotView where
  | missing
  | inactive
  | draining
  | acquired (invocation : Invocation)

/-- The result of `handle_invoke` from its slot lookup on. -/
def handleInvoke (pluginId : String) : SlotView → Except String Json
  | .missing => .error ("plugin '" ++ pluginId ++ "' not found")
  | .inactive => .error ("plugin '" ++ pluginId ++ "' is not active")
  | .draining => .error ("plugin '" ++ pluginId ++ "' is draining")
  | .acquired (.timedOut limit) =>
      .error ("plugin '" ++ pluginId ++ "' timed out after " ++ limit)
  | .acquired (.returned (.error text)) => .error ("invocation failed: " ++ text)
  | .acquired (.returned (.ok value)) => .ok (.object [("result", value)])

/-- A tool's outcome that has reached the plugin's linear memory: the generated code has
encoded it and written it to a buffer that it allocated, in a memory of at most 2 GiB, and
MessagePack decodes what was encoded. -/
structure Returned (msgpack : Msgpack) where
  outcome : Except PluginError String
  before : List UInt8
  after : List UInt8
  allocated : before ≠ []
  addressable :
    (before ++ prefixed (msgpack.toVec (toolResponse outcome)) ++ after).length ≤ 2 ^ 31
  decodes : msgpack.fromSlice (msgpack.toVec (toolResponse outcome)) = some (toolResponse outcome)

namespace Returned

variable {msgpack : Msgpack}

/-- The plugin's linear memory after `__corvid_invoke`. -/
def memory (returned : Returned msgpack) : List UInt8 :=
  returned.before ++ prefixed (msgpack.toVec (toolResponse returned.outcome)) ++ returned.after

/-- The pointer that `__corvid_invoke` returned. -/
def ptr (returned : Returned msgpack) : BitVec 32 :=
  BitVec.ofNat 32 returned.before.length

/-- The pointer of an allocated buffer is not null. -/
theorem ptr_ne_zero (returned : Returned msgpack) : returned.ptr ≠ 0 := by
  intro hzero
  have hlength := returned.addressable
  simp only [List.length_append] at hlength
  have htoNat : returned.before.length % 2 ^ 32 = 0 := by
    simpa [ptr] using congrArg BitVec.toNat hzero
  have hpos := List.length_pos_of_ne_nil returned.allocated
  omega

end Returned

/-- `invoke_tool` returns the response value that the plugin built. -/
theorem invoke_tool_returned {msgpack : Msgpack} (returned : Returned msgpack) :
    invokeTool msgpack returned.memory returned.ptr = .ok (toolResponse returned.outcome) := by
  have hread : readPrefixed returned.memory returned.ptr =
      .ok (msgpack.toVec (toolResponse returned.outcome)) :=
    read_prefixed_prefixed returned.addressable
  unfold invokeTool
  rw [if_neg returned.ptr_ne_zero, hread]
  show (match msgpack.fromSlice (msgpack.toVec (toolResponse returned.outcome)) with
    | none => _
    | some value => _) = _
  rw [returned.decodes]

end CorvidNano.Host.Response
