import TokenLens.Service.Journal
import TokenLens.Text.Path

/-!
# The request logs of a process

All apps of a process write their entries through the same handlers. A handler opens its file when
it is attached and writes to the end of that file from then on, under whatever name it stands. A
file gets one handler only, by whatever path it is asked for.
-/

namespace TokenLens

/-- A handler of the request log: the whole name by which it opened its file, and whether the file
still stands under this name. -/
structure Handler where
  file : Text
  inPlace : Bool
deriving DecidableEq, Repr

/-- What a process has to do with request logs: the directory in which it works, its handlers in the
order in which they were attached, and the files that there are under their whole names. -/
structure Logbook where
  directory : Text
  handlers : List Handler
  files : List (Text × String)
deriving DecidableEq, Repr

namespace Logbook

/-- The whole name of the file that a path leads to. -/
def nameOf (book : Logbook) (path : Text) : Text :=
  Path.absolute book.directory path

/-- The text of a file, if there is one. -/
def content? (book : Logbook) (name : Text) : Option String :=
  Keyed.get? name book.files

/-- A logbook after a text was written to the end of a file, which is created if there is none. -/
def append (name : Text) (text : String) (book : Logbook) : Logbook :=
  { book with files := Keyed.insert name ((book.content? name).getD "" ++ text) book.files }

/-- A logbook after a file was removed. What its handlers write from now on is lost. -/
def remove (name : Text) (book : Logbook) : Logbook :=
  { book with
    handlers := book.handlers.map fun handler =>
      if handler.file = name then { handler with inPlace := false } else handler
    files := book.files.filter fun file => !decide (file.1 = name) }

/-- A logbook with a handler for a file, which is created if there is none. -/
def attach (name : Text) (book : Logbook) : Logbook :=
  if book.handlers.any (·.file = name) then book
  else { book.append name "" with handlers := book.handlers.concat ⟨name, true⟩ }

/-- A logbook after every handler wrote an entry. -/
def record (book : Logbook) (entry : LogEntry) : Logbook :=
  book.handlers.foldl
    (fun written handler =>
      if handler.inPlace then written.append handler.file entry.line else written)
    book

end Logbook

end TokenLens
