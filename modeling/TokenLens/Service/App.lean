import TokenLens.Service.Logbook
import TokenLens.Service.Serve

/-!
# Apps

An app is created with its settings and with the path of its request log, which may be empty. A
process may create many apps; they share the handlers of its logbook, so a request that one of them
serves is kept in the logs of all of them.
-/

namespace TokenLens

/-- An app: its settings and the path of its request log, empty if it has none. -/
structure App where
  settings : Settings
  logPath : Text
deriving DecidableEq, Repr

/-- Why an app could not be created. -/
inductive AppError where
  | logIsDirectory
deriving DecidableEq, Repr

namespace App

/-- Create an app in a process. -/
def create (settings : Settings) (logPath : Text) (book : Logbook) :
    Except AppError (App × Logbook) :=
  if logPath.isEmpty then .ok (⟨settings, logPath⟩, book)
  else if Path.endsInDirectory logPath then .error .logIsDirectory
  else .ok (⟨settings, logPath⟩, book.attach (book.nameOf logPath))

/-- Create an app for each of some settings, one after the other. The last one is what is left. -/
def createEach (logPath : Text) (first : Settings) :
    List Settings → Logbook → Except AppError (App × Logbook)
  | [], book => create first logPath book
  | second :: rest, book => do
      let (_, created) ← create first logPath book
      createEach logPath second rest created

/-- The request log of an app, if it has one. -/
def journal? (app : App) (book : Logbook) : Option Journal :=
  if app.logPath.isEmpty then none else some ⟨book.content? (book.nameOf app.logPath)⟩

/-- Serve a request: the response that is sent, and the logbook after it. -/
def serve (app : App) (book : Logbook) (stamp : Stamp) (request : Request) :
    Dialogue (Response × Logbook) := do
  let response ← Service.answer app.settings (app.journal? book) request
  let (response, entry?) := Service.kept stamp request response
  return (Service.delivered request response, entry?.elim book book.record)

end App

end TokenLens
