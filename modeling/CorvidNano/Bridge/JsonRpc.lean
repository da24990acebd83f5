import Mathlib.Tactic.TypeStar

/-!
# The JSON-RPC response envelope

The struct `JsonRpcResponse`, which the host writes as one line of JSON and its clients read
back.
-/

namespace CorvidNano.Bridge

/-- A response to a request. An absent field and a `null` one are both `none`. -/
structure JsonRpcResponse (Value : Type*) where
  result : Option Value
  error : Option String
  id : Option Value

/-- The response that `handle_request` makes of a handler's result. -/
def JsonRpcResponse.ofResult {Value : Type*} (result : Except String Value) (id : Option Value) :
    JsonRpcResponse Value :=
  match result with
  | .ok value => { result := some value, error := none, id }
  | .error text => { result := none, error := some text, id }

end CorvidNano.Bridge
