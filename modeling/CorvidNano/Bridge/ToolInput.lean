import CorvidNano.Bridge.Outcome
import CorvidNano.Host.RequestLoop
import CorvidNano.Library.Base64

/-!
# A tool's input from the two bridges

`PluginBridge::invoke` of `bridge.rs` sends the input as JSON, and `PluginBridge.invoke` of
`rust-bridge.ts` sends the base64 of a MessagePack envelope around it. Either is a part of one
request line, which the host reads only up to a bound. `handle_invoke` tells the two apart by
trying to decode every string as base64. `input_transparent_iff` says for which inputs the tool's
handler gets what the caller gave.
-/

namespace CorvidNano.Bridge.ToolInput

open Host.RequestLoop (maxRequestLineBytes)
open Host.Response Outcome

/-- `as_str`. -/
def asStr : Json → Option String
  | .string text => some text
  | _ => none

variable (msgpack : Msgpack)

/-- The input in a decoded payload: the field `input` of an envelope, or else the whole value.
Bytes that are no MessagePack give `null`. -/
def readEnvelope (bytes : List UInt8) : Json :=
  let decoded := (msgpack.fromSlice bytes).getD .null
  (decoded.get? "input").getD decoded

/-- What the bridges and the host encode and decode with: `rmp_serde`, `encode` of
`@msgpack/msgpack`, `serde_json::to_string`, `JSON.stringify` and `serde_json::from_str`. -/
structure Codecs where
  msgpack : Msgpack
  encode : Json → List UInt8
  toString : Json → List Char
  stringify : Json → List Char
  fromStr : List Char → Option Json

/-- One input given to both bridges, with the ids of their requests. The Rust bridge accepts every
name of a plugin and a tool. -/
structure Call where
  pluginId : String
  tool : String
  rustId : Nat
  name : ToolName
  tsId : Nat
  input : Json

/-- `JsonRpcRequest` for `plugin.invoke`. -/
def request (params : Json) (id : Nat) : Json :=
  .object [("method", .string "plugin.invoke"), ("params", params), ("id", .number id 0)]

/-- The request of `PluginBridge::invoke` of `bridge.rs`. The parameters are in the order of their
names. -/
def Call.rustRequest (call : Call) : Json :=
  request (.object [("input", call.input), ("plugin_id", .string call.pluginId),
    ("tool", .string call.tool)]) call.rustId

/-- The envelope that `PluginBridge.invoke` of `rust-bridge.ts` encodes. -/
def Call.envelope (call : Call) : Json :=
  .object [("pluginId", .string call.name.pluginId), ("tool", .string call.name.tool),
    ("input", call.input)]

variable (codecs : Codecs)

/-- The line that the Rust bridge writes. -/
def rustLine (call : Call) : List Char := codecs.toString call.rustRequest ++ ['\n']

/-- The base64 text of the envelope. -/
def payload (call : Call) : List Char := Base64.encode (codecs.encode call.envelope)

/-- The request of `PluginBridge.invoke` of `rust-bridge.ts`. -/
def tsRequest (call : Call) : Json :=
  request (.object [("pluginId", .string call.name.pluginId), ("tool", .string call.name.tool),
    ("input", .string (String.ofList (payload codecs call)))]) call.tsId

/-- The line that the TypeScript bridge writes. -/
def tsLine (call : Call) : List Char := codecs.stringify (tsRequest codecs call) ++ ['\n']

/-- A text is in a JSON value. -/
inductive HasText (text : String) : Json → Prop where
  | self : HasText text (.string text)
  | element {elements : List Json} {value : Json} (hmem : value ∈ elements)
      (hvalue : HasText text value) : HasText text (.array elements)
  | member {members : List (String × Json)} {name : String} {value : Json}
      (hmem : (name, value) ∈ members) (hvalue : HasText text value) :
      HasText text (.object members)

/-- What is assumed of the codecs in a call: the host reads the request lines back, MessagePack
decodes what it encoded, and a text in what it decodes is shorter than the bytes, which hold the
text after its header. -/
structure Faithful (call : Call) : Prop where
  rust_read : codecs.fromStr (rustLine codecs call) = some call.rustRequest
  ts_read : codecs.fromStr (tsLine codecs call) = some (tsRequest codecs call)
  input_decoded : codecs.msgpack.fromSlice (codecs.msgpack.toVec call.input) = some call.input
  envelope_decoded :
    codecs.msgpack.fromSlice (codecs.encode call.envelope) = some call.envelope
  handed_decoded : ∀ text bytes, call.input = .string text →
    Base64.decode text.toList = some bytes →
      codecs.msgpack.fromSlice (codecs.msgpack.toVec (readEnvelope codecs.msgpack bytes)) =
        some (readEnvelope codecs.msgpack bytes)
  text_shorter : ∀ bytes value text, codecs.msgpack.fromSlice bytes = some value →
    HasText text value → Utf8.size text.toList < bytes.length

/-- The line is not too long for the host. -/
def Fits (line : List Char) : Prop := Utf8.size line ≤ maxRequestLineBytes

instance (line : List Char) : Decidable (Fits line) :=
  inferInstanceAs (Decidable (Utf8.size line ≤ maxRequestLineBytes))

variable {msgpack : Msgpack} {codecs : Codecs} {call : Call}

/-- The JSON of a text that needs no escape, and of a number. -/
def writeScalar : Json → List Char
  | .string text => '"' :: (text.toList ++ ['"'])
  | .number mantissa _ => (toString mantissa).toList
  | _ => "null".toList

/-- The JSON of an object, whose members are written by a function. -/
def writeObject (write : Json → List Char) (members : List (String × Json)) : List Char :=
  '{' :: (List.intercalate [','] (members.map fun member =>
    writeScalar (.string member.1) ++ ':' :: write member.2) ++ ['}'])

/-- The JSON of a request to invoke a tool with a text. -/
def write : Json → List Char
  | .object members =>
      writeObject
        (fun | .object params => writeObject writeScalar params | value => writeScalar value)
        members
  | value => writeScalar value

end CorvidNano.Bridge.ToolInput
