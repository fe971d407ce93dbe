import TokenLens.Url.Label
import TokenLens.Url.Percent

/-!
# Authorities

The part of a URL that names who answers: a host, perhaps with a port behind it, and perhaps in
front of it a user with or without a password. A host in brackets is an address of sixteen bytes or
one of a kind still to come.

`check` tells whether a text is an authority at all. `Authority.written` puts it into ASCII, and
`Authority.shown` into the text that it stands for.
-/

namespace TokenLens

/-- Why a URL is of no use. -/
inductive UrlFault where
  | malformed
  | label
  | unencodable
deriving DecidableEq, Repr

/-- The number of decimal digits. -/
def decimalOf (digits : List Char) : Nat :=
  digits.foldl (fun number digit => number * 10 + (digit.toNat - '0'.toNat)) 0

/-! ## Addresses in brackets -/

namespace HostAddress

/-- Whether a text is a number of one byte, without a zero in front. -/
def isByte (digits : Text) : Bool :=
  match digits.chars? with
  | some characters =>
      !characters.isEmpty && characters.length ≤ 3 && characters.all Char.isDigit &&
        (characters.length = 1 || characters.head? ≠ some '0') &&
        decimalOf characters ≤ 255
  | none => false

/-- Whether a text is an address of four bytes. -/
def isShort (text : Text) : Bool :=
  let bytes := Split.atAll (· = .char '.') text
  bytes.length = 4 && bytes.all isByte

/-- Whether a text is a group of an address of sixteen bytes: up to four hexadecimal digits. -/
def isGroup (digits : Text) : Bool :=
  !digits.isEmpty && digits.length ≤ 4 &&
    digits.all fun digit => (digit.char?).any Hex.isDigit

/-- The number of groups with colons between them; none if one of them is no group. The last may be
an address of four bytes in the place of two groups, if that is asked for. -/
def groupCount? (mayEndShort : Bool) (text : Text) : Option Nat :=
  if text.isEmpty then some 0
  else
    let groups := Split.atAll (· = .char ':') text
    if mayEndShort && groups.getLast?.any isShort then
      if groups.dropLast.all isGroup then some (groups.length + 1) else none
    else if groups.all isGroup then some groups.length
    else none

/-- What stands before the first pair of colons, and what stands after it. -/
def atTwoColons? : Text → Option (Text × Text)
  | .char ':' :: .char ':' :: rest => some ([], rest)
  | point :: rest => (atTwoColons? rest).map fun (before, after) => (point :: before, after)
  | [] => none

/-- Whether a text is an address of sixteen bytes: eight groups, or fewer with two colons in the
place of those that are zero. -/
def isLong (text : Text) : Bool :=
  match atTwoColons? text with
  | some (before, after) =>
      match groupCount? false before, groupCount? true after with
      | some count, some others => count + others ≤ 7
      | _, _ => false
  | none => groupCount? true text = some 8

/-- Whether a text is an address of sixteen bytes, perhaps with a zone behind a percent sign. -/
def isZoned (text : Text) : Bool :=
  let (address, zone) := Split.atFirst (.char '%') text
  isLong address && (!text.contains (.char '%') || (!zone.isEmpty && !zone.contains (.char '%')))

/-- Whether a text is an address of a kind still to come: a version in hexadecimal digits behind the
letter, a full stop, and more. -/
def isFuture (text : Text) : Bool :=
  let (version, rest) := Split.atFirst (.char '.') text
  1 < version.length && !rest.isEmpty &&
    (version.drop 1).all fun digit => (digit.char?).any Hex.isDigit

/-- Whether a text may stand in brackets. -/
def isBracketed (text : Text) : Bool :=
  if text.head? = some (.char 'v') then isFuture text else isZoned text

end HostAddress

/-! ## Authorities as they are read -/

/-- A user, and a password if a colon stands behind the user. -/
structure Account where
  user : Text
  password : Option Text

/-- An authority in its parts. -/
structure Authority where
  account : Option Account
  name : Text
  port : Text

namespace Authority

/-- The account in front of the last at sign. -/
def accountOf (text : Text) : Option Account :=
  if text.contains (.char '@') then
    let (front, _) := Split.atLast (.char '@') text
    let (user, password) := Split.atFirst (.char ':') front
    some ⟨user, if front.contains (.char ':') then some password else none⟩
  else none

/-- The parts of an authority. A name in brackets may hold colons. -/
def ofText (text : Text) : Authority :=
  let server := (Split.atLast (.char '@') text).2
  if server.contains (.char '[') then
    let (name, rest) := Split.atFirst (.char ']') (Split.atFirst (.char '[') server).2
    ⟨accountOf text, name, (Split.atFirst (.char ':') rest).2⟩
  else
    let (name, port) := Split.atFirst (.char ':') server
    ⟨accountOf text, name, port⟩

/-- Whether brackets stand around the whole name of a server, which may stand there. -/
def hasBracketsInPlace (server : Text) : Bool :=
  let (before, rest) := Split.atFirst (.char '[') server
  if server.contains (.char '[') then
    let (name, behind) := Split.atFirst (.char ']') rest
    before.isEmpty && (behind.isEmpty || behind.head? = some (.char ':')) &&
      HostAddress.isBracketed name
  else HostAddress.isBracketed (Split.atFirst (.char ':') server).1

/-- The code points beyond ASCII that look like a delimiter of a URL or hold one. -/
def lookalikes : List Nat :=
  [0x2047, 0x2048, 0x2049, 0x2100, 0x2101, 0x2105, 0x2106, 0x2A74, 0xFE13, 0xFE16, 0xFE55, 0xFE56,
   0xFE5F, 0xFE6B, 0xFF03, 0xFF0F, 0xFF1A, 0xFF1F, 0xFF20]

/-- Whether a text is an authority: its brackets are in place, and nothing in it looks like a
delimiter. -/
def check (text : Text) : Except UrlFault Unit :=
  let opens := text.contains (.char '[')
  let closes := text.contains (.char ']')
  if opens ≠ closes || text.any fun point => lookalikes.contains point.toNat then
    .error .malformed
  else if opens && !hasBracketsInPlace (Split.atLast (.char '@') text).2 then .error .malformed
  else .ok ()

/-- The name of the host in small letters, without the zone of an address. -/
def smallName (authority : Authority) : Text :=
  Text.lower (authority.name.takeWhile (· ≠ .char '%')) ++
    authority.name.dropWhile (· ≠ .char '%')

/-- The number of the port, if one is stated. -/
def portNumber? (authority : Authority) : Except UrlFault (Option Nat) :=
  if authority.port.isEmpty then .ok none
  else match authority.port.chars? with
    | some digits =>
        if digits.all Char.isDigit && decimalOf digits ≤ 65535 then .ok (some (decimalOf digits))
        else .error .malformed
    | none => .error .malformed

/-! ## Authorities as they are written and shown -/

/-- The text of an authority with a given account. A name with colons stands in brackets. -/
def assemble (account : Option Account) (name : Text) (port : Option Nat) : Text :=
  let front : Text := match account with
    | some ⟨user, some password⟩ => user ++ ":" ++ password ++ "@"
    | some ⟨user, none⟩ => user ++ "@"
    | none => []
  let host : Text := if name.contains (.char ':') then "[" ++ name ++ "]" else name
  let behind : Text := match port with
    | some number => ":" ++ (toString number : Text)
    | none => []
  front ++ host ++ behind

/-- What stands plainly in the name of a user and in a password. -/
def plainInUser : String := "%!$&'()*+,;="

/-- The name of a user, or a password, in ASCII. -/
def writtenUser (user : Text) : Except UrlFault Text :=
  match Percent.encode? plainInUser user with
  | some characters => .ok (Text.ofChars characters)
  | none => .error .unencodable

/-- An authority in ASCII. -/
def written (authority : Authority) : Except UrlFault Text := do
  let name ← match Label.asciiName? authority.smallName with
    | some name => pure name
    | none => throw .label
  let port ← authority.portNumber?
  let account ← authority.account.mapM fun account => do
    let user ← writtenUser account.user
    return Account.mk user (← account.password.mapM writtenUser)
  return assemble account name port

/-- The name of a user, or a password, as the text that it stands for. -/
def shownUser (user : Text) : Text :=
  Text.ofChars (Percent.decodeUser (user.filterMap CodePoint.char?))

/-- An authority as the text that it stands for. -/
def shown (authority : Authority) : Except UrlFault Text := do
  let name ← match Label.nameText? authority.smallName with
    | some name => pure name
    | none => throw .label
  let port ← authority.portNumber?
  let account := authority.account.map fun account =>
    Account.mk (shownUser account.user) (account.password.map shownUser)
  return assemble account name port

end Authority

end TokenLens
