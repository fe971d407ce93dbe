import TokenLens.Service.Journal
import TokenLens.Service.Route
import TokenLens.Settings
import TokenLens.Standard.Bundled

/-!
# The service

What is answered to a request. Contracts in the body are classified without a node; addresses are
looked up at the node of the settings. In the body of a classification the contract has to be there
first, then the threshold is checked, then the strategy, then the contract. A breakdown on the way
to the answer or to the entry in the request log is answered with status 500; the entry is then
written if it can be.
-/

namespace TokenLens

namespace Request

/-- The threshold among the members of a body, a hundred if they state none. -/
def threshold (members : List (Text × Json)) : Except RequestError Number :=
  match Keyed.get? "threshold" members with
  | none => .ok .hundred
  | some stated =>
      match stated.number? with
      | none => .error .thresholdNotNumber
      | some number =>
          if (Number.integer 0).le number && number.le .hundred then .ok number
          else .error .thresholdOutOfRange

/-- The strategy among the members of a body, which is compared as text. -/
def strategy (members : List (Text × Json)) : Except RequestError Strategy :=
  match Keyed.get? "strategy" members with
  | none => .ok .minMax
  | some stated => (Strategy.ofJson (.str stated.display)).mapError .input

/-- The contract that a classification is about. -/
def contract (name : Text) (members : List (Text × Json)) : Except RequestError Json :=
  match Keyed.get? name members with
  | some stated => .ok stated
  | none => .error (.missingMember name)

/-- Whether a text is an address: its mark and forty hexadecimal digits. -/
def isAddress : Text → Bool
  | .char '0' :: .char 'x' :: digits =>
      digits.length = 40 && digits.all fun digit => (digit.char?).any Hex.isDigit
  | _ => false

/-- The address that a request is about: that of the query unless it is blank, or else that of the
body, without the blanks around it. -/
def address (request : Request) : Except RequestError Text := do
  let queried := Text.strip request.queryAddress
  let stated ←
    if queried.isEmpty then (request.bodyAddress.map Text.strip).mapError .broken
    else pure queried
  if stated.isEmpty then .error .missingAddress
  else if isAddress stated then .ok stated
  else .error (.invalidAddress stated)

end Request

namespace Service

/-- A text or nothing, as a document. -/
def optionalText (text : Option Text) : Json :=
  (text.map Json.str).getD .null

/-- The members of the body of a request. -/
def membersOf (request : Request) : Except RequestError (List (Text × Json)) :=
  request.members.mapError .broken

/-- What is answered about an ABI. -/
def classifyAbi (request : Request) : Except RequestError Json := do
  let members ← membersOf request
  let abi ← Request.contract "abi" members
  let threshold ← Request.threshold members
  let strategy ← Request.strategy members
  let standard ← (TokenLens.classifyAbi abi .bundled strategy threshold).mapError .input
  let selectors ← (Abi.selectors abi).mapError fun fault => .input (.abi fault)
  return .obj [("standard", optionalText standard), ("signatures", .int selectors.size)]

/-- What is answered about code. -/
def classifyBytecode (request : Request) : Except RequestError Json := do
  let members ← membersOf request
  let bytecode ← Request.contract "bytecode" members
  let threshold ← Request.threshold members
  let strategy ← Request.strategy members
  let verdict ← (classifyCode bytecode .bundled strategy threshold).mapError .input
  return .obj
    [("standard", optionalText verdict.label?),
     ("proxy", (verdict.finding?.map Finding.toJson).getD .null)]

/-- The selectors that are listed of an ABI or, without one, of code. -/
def listSelectors (request : Request) : Except RequestError SelectorSet := do
  let members ← membersOf request
  match Keyed.get? "abi" members, Keyed.get? "bytecode" members with
  | some abi, _ => (Abi.selectors abi).mapError fun fault => .input (.abi fault)
  | none, some bytecode =>
      ((Code.ofJson bytecode).mapError fun fault => .input (.code fault)).map Code.literals
  | none, none => .error .missingContract

/-- What is answered about the selectors of a contract. -/
def signatures (request : Request) : Except RequestError Json := do
  return .obj [("signatures", .arr ((← listSelectors request).toList.map .str))]

/-- Everything that is known about the delegation of a contract at an address. -/
def inspectProxy (url address : Text) : Lookup Json := do
  let code ← Lookup.codeOf (← Lookup.read ⟨url, .code address⟩)
  let target ← Proxy.firstTargetOfCode? url address code
  return .obj
    [("address", .str address), ("implementation", optionalText target),
     ("status", (code.finding?.map Finding.toJson).getD .null)]

/-- The label of the contract at an address. -/
def classifyAddress (settings : Settings) (address : Text) : Lookup Json := do
  let standard ←
    Chain.standardAt settings.rpcUrl address none settings.maxProxyNodes .bundled
  return .obj [("address", .str address), ("standard", optionalText standard)]

/-- The response to a request about an address. -/
def aboutAddress (request : Request) (lookup : Text → Lookup Json) : Dialogue Response :=
  match request.address with
  | .error fault => return .ofError fault
  | .ok address => do
      return .ofOutcome ((← (lookup address).run).mapError .lookup)

/-- The response about the request log, if there is one. -/
def stats : Option Journal → Response
  | some journal => journal.report
  | none => .refusal 501 "logging not configured"

/-- The response of a route. -/
def respond (settings : Settings) (journal : Option Journal) (request : Request) :
    Route → Dialogue Response
  | .health => return .document 200 (.obj [("status", .str "ok")])
  | .stats => return stats journal
  | .classifyAbi => return .ofOutcome (classifyAbi request)
  | .classifyBytecode => return .ofOutcome (classifyBytecode request)
  | .classifyAddress => aboutAddress request (classifyAddress settings)
  | .proxy => aboutAddress request (inspectProxy settings.rpcUrl)
  | .signatures => return .ofOutcome (signatures request)
  | .file => return .page 404

/-- Where a request leads. -/
def destination (request : Request) : Destination :=
  if !request.target.hasValidHost then .invalidHost
  else if request.isFromSocket then .ofSocket request.verb request.path
  else .of request.verb request.path

/-- The response to a request, as the request log sees it. -/
def answer (settings : Settings) (journal : Option Journal) (request : Request) :
    Dialogue Response :=
  match destination request with
  | .route route => respond settings journal request route
  | .options => return .page 200
  | .redirect => return .page 308
  | .invalidHost => return .page 400
  | .noSocket => return .page 400
  | .methodNotAllowed => return .page 405
  | .notFound => return .page 404

/-- Whether a request is kept in the request log. -/
def isLogged (request : Request) : Bool :=
  "/classify".toList.isPrefixOf request.path.toList

/-- A response once the request log has looked at it, and the entry that is written for it. Where
the entry cannot be told, none is written, and the response is replaced. -/
def kept (stamp : Stamp) (request : Request) (response : Response) :
    Response × Option LogEntry :=
  if isLogged request then
    match LogEntry.of stamp request response with
    | .ok entry => (response, some entry)
    | .error _ => (.page 500, none)
  else (response, none)

/-- The response as it is sent: the answer to `HEAD`, in capital letters, has no body. -/
def delivered (request : Request) (response : Response) : Response :=
  if request.method = "HEAD" then { response with body := none } else response

end Service

end TokenLens
