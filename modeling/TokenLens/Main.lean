import TokenLens.Command.Run
import TokenLens.Node.Session

/-!
# The program

The outer layer of the command line: it fetches the variables of the environment and whatever text
the arguments may name, runs the command, and prints what the command leaves behind. There is no
transport here, so every request to a node fails.
-/

namespace TokenLens.Program

/-- The variables that may set something. -/
def variableNames : List String :=
  ["RPC_URL", "MAX_PROXY_NODES", "PROBE_WORKERS", "LOG_LEVEL"]

/-- The environment as far as it matters. -/
def readEnvironment : IO (String → Text) := do
  let found ← variableNames.mapM fun name => return (name, (← IO.getEnv name).getD "")
  return fun name => (found.lookup name).getD ""

/-- The content of a file, if there is a readable one. -/
def readFile? (name : Text) : IO (Option Text) :=
  try return some (Text.ofString (← IO.FS.readFile name.asString)) catch _ => return none

/-- The text behind an option and its name in one argument, as well as the argument itself. -/
def mayName (argument : Text) : List Text :=
  argument :: (Token.splitAttached argument).2.toList

/-- The workplace of a command, as far as its arguments may name a part of it. -/
def readWorkplace (arguments : List Text) : IO Workplace := do
  let standardInput ←
    if arguments.any (fun argument => (mayName argument).contains "-") then
      (← IO.getStdin).readToEnd
    else pure ""
  let files ← (arguments.flatMap mayName).mapM fun name => return (name, ← readFile? name)
  return ⟨standardInput, fun name => (files.lookup name).join⟩

end TokenLens.Program

/-- Run a command and print what it leaves behind. -/
def main (arguments : List String) : IO UInt32 := do
  let environment ← TokenLens.Program.readEnvironment
  let arguments := arguments.map TokenLens.Text.ofString
  let workplace ← TokenLens.Program.readWorkplace arguments
  let dialogue := TokenLens.CommandLine.run environment workplace arguments
  match (dialogue.run (fun _ => .failed) .empty).value with
  | .ok outcome =>
      IO.print outcome.output.asString
      IO.eprint outcome.errors.asString
      return UInt32.ofNat outcome.exitCode
  | .error cause =>
      IO.eprintln cause.message
      return 1
