import TokenLens.Url.Basic

/-!
# Request targets

A target is a path and, behind a question mark, a query of fields. A scheme and a host may stand in
front of it. They say how and to whom the request is sent, which is all that they do; what follows
them may start with another scheme and host, which are passed over. If what is left of the path
starts with a scheme and a host once more, these are a part of the path, settled as in any URL.

`Target.ofText` gives a target as the service gets it, or tells why none is sent.
-/

namespace TokenLens

/-- The target of a request: the path with one slash in front, the query as it was written, whether
a socket is asked for, and whether the service can be called by the name that it was sent to. -/
structure Target where
  path : String
  query : List Char
  asksForSocket : Bool
  hasValidHost : Bool
deriving DecidableEq, Repr

namespace Target

/-- A path as it was written, taken as the service takes it. However many slashes it starts with,
one is kept. -/
def pathOf (settled : Text) : String :=
  let decoded := Percent.decodePath (settled.filterMap CodePoint.char?)
  String.ofList ('/' :: decoded.dropWhile (· = '/'))

/-- A host without the port that its scheme has anyway. -/
def withoutUsualPort (scheme host : Text) : Text :=
  let usual : Text :=
    if [("http" : Text), "ws"].contains scheme then ":80"
    else if [("https" : Text), "wss"].contains scheme then ":443"
    else []
  if List.isSuffixOf usual host then host.take (host.length - usual.length) else host

/-- Whether the text before the first colon of a host is a host name. -/
def isHostName (host : Text) : Bool :=
  (Label.asciiName? (Text.lower (Split.atFirst (.char ':') host).1)).isSome

/-- The target that a text is. The text that its host stands for has to be an authority as well. -/
def ofText (text : Text) : Except UrlFault Target := do
  let outer ← Url.ofText text
  let request := if outer.query.isEmpty then outer.path else outer.path ++ "?" ++ outer.query
  let inner ← Url.ofText request
  let path ← Url.settle inner.path
  let scheme : Text := if outer.scheme.isEmpty then "http" else outer.scheme
  let named : Text := if outer.authority.isEmpty then "localhost" else outer.authority
  let settled ← (Authority.ofText named).written
  Authority.check settled
  if (request.chars?).isNone then throw .unencodable
  let host := withoutUsualPort scheme settled
  Authority.check (← (Authority.ofText host).shown)
  return ⟨pathOf path, inner.query.filterMap CodePoint.char?,
    [("ws" : Text), "wss"].contains scheme, isHostName host⟩

/-- The fields of the query, in order. A field without an equals sign has an empty value. -/
def fields (target : Target) : List (String × String) :=
  ((Split.atAll (· = '&') target.query).filter fun field => !field.isEmpty).map fun field =>
    let (name, value) := Split.atFirst '=' field
    (Percent.decodeField name, Percent.decodeField value)

/-- The first value of a field; empty if there is none. -/
def field (target : Target) (name : String) : String :=
  (target.fields.lookup name).getD ""

end Target

end TokenLens
