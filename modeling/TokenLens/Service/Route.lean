import TokenLens.Text.Basic

/-!
# Routes

Which request is served by what. Every route answers `OPTIONS`, and `HEAD` where it answers `GET`. A
path with runs of slashes that would be a route with single ones is redirected there. Nothing is
served through a socket.
-/

namespace TokenLens

/-- What the service serves. The directory of files is empty, so nothing is found in it. -/
inductive Route where
  | health
  | stats
  | classifyAbi
  | classifyBytecode
  | classifyAddress
  | proxy
  | signatures
  | file
deriving DecidableEq, Repr

/-- The methods that routes tell apart. -/
inductive Method where
  | get
  | head
  | post
  | options
deriving DecidableEq, Repr

/-- The methods with their names. -/
def Method.named : List (Text × Method) :=
  [("GET", .get), ("HEAD", .head), ("POST", .post), ("OPTIONS", .options)]

/-- The method of a name. -/
def Method.ofText? (name : Text) : Option Method :=
  named.lookup name

namespace Route

/-- Whether a text can be the name of a file: it does not start with a slash, and only its first
character may be a line feed. -/
def isFileName : List Char → Bool
  | [] => false
  | first :: rest => first ≠ '/' && !rest.contains '\n'

/-- The route of a path. -/
def ofPath? (path : List Char) : Option Route :=
  match String.ofList path with
  | "/health" => some .health
  | "/stats" => some .stats
  | "/classify/abi" => some .classifyAbi
  | "/classify/bytecode" => some .classifyBytecode
  | "/classify" => some .classifyAddress
  | "/proxy" => some .proxy
  | "/signatures" => some .signatures
  | _ =>
      if "/static/".toList.isPrefixOf path && isFileName (path.drop "/static/".length) then
        some .file
      else none

/-- Whether a route answers `GET`. -/
def answersGet : Route → Bool
  | .classifyAbi => false
  | .classifyBytecode => false
  | .signatures => false
  | _ => true

/-- Whether a route answers `POST`. -/
def answersPost : Route → Bool
  | .classifyAbi => true
  | .classifyBytecode => true
  | .signatures => true
  | .classifyAddress => true
  | _ => false

/-- Whether a route answers a method. -/
def answers (route : Route) : Method → Bool
  | .get => route.answersGet
  | .head => route.answersGet
  | .post => route.answersPost
  | .options => true

end Route

/-- Where a request leads. -/
inductive Destination where
  | route (route : Route)
  | options
  | redirect
  | invalidHost
  | noSocket
  | methodNotAllowed
  | notFound
deriving DecidableEq, Repr

namespace Destination

/-- A path with one slash in the place of each run of them. -/
def mergeSlashes : List Char → List Char
  | [] => []
  | character :: rest =>
      if character = '/' && rest.head? = some '/' then mergeSlashes rest
      else character :: mergeSlashes rest

/-- Whether a route answers a method of the given name. -/
def answersNamed (verb : Text) (route : Route) : Bool :=
  (Method.ofText? verb).any route.answers

/-- Where a request with a method and a path leads. -/
def of (verb : Text) (path : String) : Destination :=
  match Route.ofPath? path.toList with
  | some found =>
      if !answersNamed verb found then .methodNotAllowed
      else if Method.ofText? verb = some .options then .options
      else .route found
  | none =>
      match Route.ofPath? (mergeSlashes path.toList) with
      | some found => if answersNamed verb found then .redirect else .methodNotAllowed
      | none => .notFound

/-- Where a request leads that comes through a socket. -/
def ofSocket (verb : Text) (path : String) : Destination :=
  match of verb path with
  | .methodNotAllowed => .methodNotAllowed
  | .notFound => .notFound
  | _ => .noSocket

end Destination

end TokenLens
