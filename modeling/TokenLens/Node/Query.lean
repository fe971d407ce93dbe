import TokenLens.Breakdown
import TokenLens.Json.Reader
import TokenLens.Json.Display

/-!
# Questions to a node and what comes back

Three reads of the latest block: the code of a contract, a word of its storage, and the answer to a
call. A node is asked by one request for each read; its reply counts when the request went through,
the body is an object without an error member, and the result in it is not null.
-/

namespace TokenLens

/-- A read of the latest block. -/
inductive NodeRead where
  | code (address : Text)
  | storage (address slot : Text)
  | call (target data : Text)
deriving DecidableEq, Repr

namespace NodeRead

/-- The method that a node knows a read by. -/
def method : NodeRead → String
  | .code _ => "eth_getCode"
  | .storage _ _ => "eth_getStorageAt"
  | .call _ _ => "eth_call"

/-- The parameters of a read. -/
def params : NodeRead → List Json
  | .code address => [.str address, .str "latest"]
  | .storage address slot => [.str address, .str slot, .str "latest"]
  | .call target data => [.obj [("to", .str target), ("data", .str data)], .str "latest"]

end NodeRead

/-- A read at the node behind a URL. -/
structure Query where
  url : Text
  read : NodeRead
deriving DecidableEq, Repr

/-- What becomes of a request. -/
inductive PostOutcome where
  | failed
  | answered (status : Nat) (body : Text)
deriving DecidableEq, Repr

/-- Why a node gave no result. -/
inductive RpcError where
  | requestFailed
  | invalidJson
  | nonObject
  | remote (message code : Json)
  | nullResult

namespace RpcError

/-- What is said about a missing result. -/
def message : RpcError → Text
  | .requestFailed => "RPC request failed"
  | .invalidJson => "RPC returned invalid JSON"
  | .nonObject => "RPC returned a non-object response"
  | .remote message _ => "RPC error: " ++ message.display
  | .nullResult => "RPC returned null result"

/-- The code that the node gave its error; null if it gave none. -/
def code : RpcError → Json
  | .remote _ code => code
  | _ => .null

end RpcError

/-- Why a read failed: for a reason that callers expect, or by a breakdown. -/
inductive ReadFault where
  | rpc (error : RpcError)
  | broken (cause : Breakdown)

namespace PostOutcome

/-- The error that the error member of a reply states. -/
def remoteFault : Json → ReadFault
  | .obj members =>
      .rpc (.remote ((Keyed.get? "message" members).getD (.str "unknown"))
        ((Keyed.get? "code" members).getD .null))
  | _ => .broken .malformedErrorMember

/-- The result that the members of a reply state. -/
def memberResult (members : List (Text × Json)) : Except ReadFault Json :=
  match Keyed.get? "error" members with
  | some stated => .error (remoteFault stated)
  | none =>
      match Keyed.get? "result" members with
      | none => .error (.rpc .nullResult)
      | some .null => .error (.rpc .nullResult)
      | some result => .ok result

/-- The result that the body of a reply states. -/
def bodyResult (body : Text) : Except ReadFault Json :=
  match Json.read body with
  | .error .tooDeep => .error (.broken .tooDeep)
  | .error _ => .error (.rpc .invalidJson)
  | .ok (.obj members) => memberResult members
  | .ok _ => .error (.rpc .nonObject)

/-- The result of a request. Every status from 400 to 599 is a failure. -/
def result : PostOutcome → Except ReadFault Json
  | .failed => .error (.rpc .requestFailed)
  | .answered status body =>
      if 400 ≤ status && status < 600 then .error (.rpc .requestFailed) else bodyResult body

end PostOutcome

end TokenLens
