import TokenLens.Json.Writer
import TokenLens.Service.Request

/-!
# The request log

Every request for a path that starts with `/classify` leaves one line in the request log: an entry
written as a document without spaces. The statistics are computed from the lines of the log, which
others may write to as well. Blank lines and lines that are no documents are passed over.
-/

namespace TokenLens

/-- When a request came and how many milliseconds it took, if that was measured. The milliseconds
are a double that was rounded. -/
structure Stamp where
  time : String
  milliseconds : Option Nat
  isFinite : ∀ count ∈ milliseconds, count < Nat.pow 2 1024
deriving DecidableEq, Repr

/-- What the request log keeps of a request. The standard is kept of served requests only. -/
structure LogEntry where
  stamp : Stamp
  path : String
  address : Text
  status : Nat
  method : Text
  standard : Option Json

namespace LogEntry

/-- The standard that a response names. -/
def standardOf (response : Response) : Option Json :=
  match response.status, response.body with
  | 200, some (.obj members) => some ((Keyed.get? "standard" members).getD .null)
  | _, _ => none

/-- The entry of a request and its response, if the address of the request can be told. -/
def of (stamp : Stamp) (request : Request) (response : Response) : Except Breakdown LogEntry := do
  return ⟨stamp, request.path, ← request.statedAddress, response.status, request.verb,
    standardOf response⟩

/-- The milliseconds that a request took as a document. -/
def duration (stamp : Stamp) : Json :=
  (stamp.milliseconds.map fun count => .int count).getD .null

/-- The members that every entry has. -/
def commonMembers (entry : LogEntry) : List (Text × Json) :=
  [("ts", .str entry.stamp.time), ("path", .str entry.path), ("address", .str entry.address),
   ("status", .int entry.status), ("duration_ms", duration entry.stamp),
   ("method", .str entry.method)]

/-- The members of an entry. -/
def members (entry : LogEntry) : List (Text × Json) :=
  match entry.standard with
  | some standard => entry.commonMembers.concat ("standard", standard)
  | none => entry.commonMembers

/-- An entry as a document. -/
def toJson (entry : LogEntry) : Json :=
  .obj entry.members

/-- The line of an entry. -/
def line (entry : LogEntry) : String :=
  entry.toJson.write .compact ++ "\n"

end LogEntry

/-- A request log as it is read: the text of its file, if there is one. -/
structure Journal where
  content : Option String
deriving DecidableEq, Repr

namespace Journal

/-- The lines of a text. A line ends with a line feed, a carriage return, or both in this order. -/
def splitLines : List Char → List (List Char)
  | [] => [[]]
  | '\r' :: '\n' :: rest => [] :: splitLines rest
  | character :: rest =>
      if character = '\n' || character = '\r' then [] :: splitLines rest
      else match splitLines rest with
        | first :: others => (character :: first) :: others
        | [] => [[character]]

/-- The lines of a log that are not blank. -/
def lines (journal : Journal) : List String :=
  ((splitLines (journal.content.getD "").toList).map String.ofList).filter fun line =>
    !(Text.strip line).isEmpty

/-- What a line of a log is to the statistics. -/
inductive Line where
  | entry (document : Json)
  | passedOver
  | fatal

/-- What a line is. A document that is no object, holds a number too long to be read, or is nested
too deeply is not passed over. -/
def readLine (line : String) : Line :=
  match Json.read (Text.strip line) with
  | .ok (.obj members) => .entry (.obj members)
  | .ok _ => .fatal
  | .error .malformed => .passedOver
  | .error .integerTooLong => .fatal
  | .error .tooDeep => .fatal

/-- The entries among lines; none at all if one of the lines is fatal. -/
def readEntries : List String → Option (List Json)
  | [] => some []
  | line :: rest =>
      match readLine line with
      | .entry document => (readEntries rest).map (document :: ·)
      | .passedOver => readEntries rest
      | .fatal => none

/-- The path that an entry states, as text. -/
def pathOf (entry : Json) : Text :=
  ((entry.member? "path").map Json.display).getD []

/-- How many entries there are of each path, in the order of first arrival. -/
def countByPath (entries : List Json) : List (Text × Nat) :=
  entries.foldl
    (fun counts entry =>
      Keyed.insert (pathOf entry) ((Keyed.get? (pathOf entry) counts).getD 0 + 1) counts)
    []

/-- The number of entries that the statistics show. -/
def recentCount : Nat := 20

/-- The statistics of entries: how many there are in all and of each path, and the last ones. -/
def statistics (entries : List Json) : Json :=
  .obj
    [("total_requests", .int entries.length),
     ("by_path", .obj ((countByPath entries).map fun (path, count) => (path, .int count))),
     ("recent", .arr (entries.drop (entries.length - recentCount)))]

/-- The response that reports on a log. -/
def report (journal : Journal) : Response :=
  match readEntries journal.lines with
  | some entries => .document 200 (statistics entries)
  | none => .page 500

end Journal

end TokenLens
