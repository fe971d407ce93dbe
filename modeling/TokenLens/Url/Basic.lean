import TokenLens.Url.Authority

/-!
# URLs

A text taken apart into a scheme, an authority, a path, a query and a fragment, all but the path
perhaps empty. Controls and spaces in front of it do not count, nor do tabs and line ends anywhere.
-/

namespace TokenLens

/-- A URL in its parts, without the marks between them. -/
structure Url where
  scheme : Text
  authority : Text
  path : Text
  query : Text
  fragment : Text

namespace Url

/-- A text without what does not count in a URL. -/
def clear (text : Text) : Text :=
  (text.dropWhile fun point => point.toNat ≤ 0x20).filter fun point =>
    !(point = .char '\t' || point = .char '\r' || point = .char '\n')

/-- Whether a character may stand in a scheme. -/
def isSchemeChar (character : Char) : Bool :=
  character.isAlphanum || "+-.".contains character

/-- The scheme of a text, in small letters, and what stands behind its colon. A scheme starts with a
letter. -/
def cutScheme (text : Text) : Text × Text :=
  let (front, rest) := Split.atFirst (.char ':') text
  if text.contains (.char ':') && (front.head?.bind CodePoint.char?).any Char.isAlpha &&
      front.all fun point => (point.char?).any isSchemeChar then
    (Text.lower front, rest)
  else ([], text)

/-- Whether a code point ends an authority. -/
def endsAuthority (point : CodePoint) : Bool :=
  point = .char '/' || point = .char '?' || point = .char '#'

/-- The authority that two slashes start, and what follows it. -/
def cutAuthority : Text → Text × Text
  | .char '/' :: .char '/' :: rest =>
      (rest.takeWhile (!endsAuthority ·), rest.dropWhile (!endsAuthority ·))
  | text => ([], text)

/-- The parts of a text. -/
def ofText (text : Text) : Except UrlFault Url := do
  let (scheme, rest) := cutScheme (clear text)
  let (authority, rest) := cutAuthority rest
  Authority.check authority
  let (rest, fragment) := Split.atFirst (.char '#') rest
  let (path, query) := Split.atFirst (.char '?') rest
  return ⟨scheme, authority, path, query, fragment⟩

/-- The text of a scheme, an authority and a path. -/
def join (scheme authority path : Text) : Text :=
  let front : Text := if scheme.isEmpty then [] else scheme ++ ":"
  let named : Text := if authority.isEmpty then [] else "//" ++ authority
  front ++ named ++ path

/-- What stands plainly in a path. -/
def plainInPath : String := "%!$&'()*+,/:;=@"

/-- A text with neither query nor fragment in ASCII, with the scheme and the host in small
letters. -/
def settle (text : Text) : Except UrlFault Text := do
  let url ← ofText text
  let path ← match Percent.encode? plainInPath url.path with
    | some characters => pure (Text.ofChars characters)
    | none => throw .unencodable
  let authority ← (Authority.ofText url.authority).written
  return join url.scheme authority path

end Url

end TokenLens
