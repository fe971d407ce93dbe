import TokenLens.Json.Encoding
import TokenLens.Json.Reader
import TokenLens.Node.Dialogue
import TokenLens.Service.Target
import TokenLens.Verdict.InvalidInput

/-!
# Requests and responses

A body counts only if its media type is one of JSON, its text can be read, and it is an object; any
other body is as good as an empty object, except that one which is nested too deeply breaks down
whatever asks for it. The name of a method counts in any letter case.
-/

namespace TokenLens

/-- A request to the service, with its method as it was sent. -/
structure Request where
  method : Text
  target : Target
  contentType : Text
  content : List UInt8
deriving DecidableEq, Repr

/-- A response of the service. Error pages have no document as their body. -/
structure Response where
  status : Nat
  body : Option Json

namespace Request

/-- The name of the method in capital letters. -/
def verb (request : Request) : Text :=
  Text.upper request.method

/-- The path that is asked for. -/
def path (request : Request) : String :=
  request.target.path

/-- Whether a request comes through a socket. -/
def isFromSocket (request : Request) : Bool :=
  request.target.asksForSocket

/-- Whether a code point may stand around a media type. -/
def isMediaMargin (point : CodePoint) : Bool :=
  point = .char ' ' || point = .char '\t'

/-- The media type of the body, in small letters and without parameters. -/
def mediaType (request : Request) : Text :=
  Text.lower (Text.trimBoth isMediaMargin (request.contentType.takeWhile (· ≠ .char ';')))

/-- Whether the media type is one of JSON. -/
def hasJson (request : Request) : Bool :=
  request.mediaType = "application/json" ||
    (List.isPrefixOf ("application/" : Text) request.mediaType &&
      List.isSuffixOf ("+json" : Text) request.mediaType)

/-- The document that the body is, null if it is none. -/
def document (request : Request) : Except Breakdown Json :=
  if request.hasJson then
    match (Json.textOfBytes? request.content).map Json.read with
    | some (.ok document) => .ok document
    | some (.error .tooDeep) => .error .tooDeep
    | _ => .ok .null
  else .ok .null

/-- The members of the body. -/
def members (request : Request) : Except Breakdown (List (Text × Json)) :=
  request.document.map Json.membersOrNone

/-- The address that the body states, as text. -/
def bodyAddress (request : Request) : Except Breakdown Text := do
  return ((Keyed.get? "address" (← request.members)).map Json.display).getD []

/-- The address that the query states, as it was sent. -/
def queryAddress (request : Request) : Text :=
  request.target.field "address"

/-- The address of a request as the request log shows it: that of the query, or else that of the
body. -/
def statedAddress (request : Request) : Except Breakdown Text :=
  if request.queryAddress.isEmpty then request.bodyAddress else .ok request.queryAddress

end Request

/-- Why a request was not served. -/
inductive RequestError where
  | missingMember (name : Text)
  | missingContract
  | thresholdNotNumber
  | thresholdOutOfRange
  | missingAddress
  | invalidAddress (text : Text)
  | input (fault : InvalidInput)
  | lookup (fault : LookupError)
  | broken (cause : Breakdown)

namespace Response

/-- A response with a document. -/
def document (status : Nat) (body : Json) : Response :=
  ⟨status, some body⟩

/-- A response that says why a request was not served. -/
def refusal (status : Nat) (reason : Text) : Response :=
  .document status (.obj [("error", .str reason)])

/-- A response without a document. -/
def page (status : Nat) : Response :=
  ⟨status, none⟩

/-- The response to a request that was not served: 422 for what the request holds, 502 for a node
that does not answer, 500 for a breakdown. -/
def ofError : RequestError → Response
  | .missingMember name => refusal 422 ("Missing '" ++ name ++ "' in request body")
  | .missingContract => refusal 422 "Provide 'abi' or 'bytecode' in request body"
  | .thresholdNotNumber => refusal 422 "'threshold' must be a number"
  | .thresholdOutOfRange => refusal 422 "'threshold' must be between 0 and 100"
  | .missingAddress => refusal 422 "Missing 'address' query parameter"
  | .invalidAddress text => refusal 422 ("Invalid Ethereum address: " ++ text)
  | .input fault =>
      match fault.breakdown? with
      | some _ => page 500
      | none => refusal 422 fault.message
  | .lookup (.rpc error) => refusal 502 ("RPC error: " ++ error.message)
  | .lookup (.code fault) => refusal 422 fault.message
  | .lookup (.broken _) => page 500
  | .broken _ => page 500

/-- The response to a request that may not have been served. -/
def ofOutcome : Except RequestError Json → Response
  | .ok body => document 200 body
  | .error fault => ofError fault

end Response

end TokenLens
