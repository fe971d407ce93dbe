import TokenLens.Command.Arguments
import TokenLens.Json.Writer
import TokenLens.Settings
import TokenLens.Standard.Bundled

/-!
# Running commands

A command reads what its source names, asks the library, and prints one result. A source is a dash
for standard input, the name of a file, or the content itself. Input that is refused and a malformed
environment end with exit code 2, a node that does not answer with 1. A breakdown is no outcome: it
is handed on.
-/

namespace TokenLens

/-- What a command can read: standard input, and the content of a file if there is one of that
name. -/
structure Workplace where
  standardInput : Text
  file? : Text → Option Text

/-- What a command leaves behind. -/
structure CommandOutcome where
  exitCode : Nat
  output : Text
  errors : Text
deriving DecidableEq, Repr

/-- Why a command failed. -/
inductive CommandError where
  | unreadableAbi (source : Text)
  | invalid (fault : InvalidInput)
  | lookup (fault : LookupError)
  | broken (cause : Breakdown)

namespace CommandOutcome

/-- What a command leaves that prints a result. -/
def printed (result : Text) : CommandOutcome :=
  ⟨0, result ++ "\n", ""⟩

/-- What a command leaves that refuses its input. -/
def refused (reason : Text) : CommandOutcome :=
  ⟨2, "", "error: " ++ reason ++ "\n"⟩

/-- What a command leaves that a node did not answer. -/
def unanswered (error : RpcError) : CommandOutcome :=
  ⟨1, "", "RPC error: " ++ error.message ++ "\n"⟩

/-- What is left when the arguments ask for nothing that can be done. -/
def usage : CommandOutcome :=
  ⟨2, "", "usage"⟩

/-- What is left when the arguments ask for help. -/
def help : CommandOutcome :=
  ⟨0, "usage", ""⟩

/-- What a failed command leaves, unless a breakdown is behind its failure. -/
def ofError : CommandError → Except Breakdown CommandOutcome
  | .unreadableAbi source => .ok (refused ("Cannot parse ABI from " ++ source))
  | .invalid fault =>
      match fault.breakdown? with
      | some cause => .error cause
      | none => .ok (refused fault.message)
  | .lookup (.rpc error) => .ok (unanswered error)
  | .lookup (.code fault) => .ok (refused fault.message)
  | .lookup (.broken cause) => .error cause
  | .broken cause => .error cause

end CommandOutcome

namespace Workplace

/-- The text that a source stands for. -/
def read (workplace : Workplace) (source : Text) : Text :=
  if source = "-" then workplace.standardInput else (workplace.file? source).getD source

/-- The document that a source stands for. -/
def readAbi (workplace : Workplace) (source : Text) : Except CommandError Json :=
  match Json.read (workplace.read source) with
  | .ok document => .ok document
  | .error .tooDeep => .error (.broken .tooDeep)
  | .error _ => .error (.unreadableAbi source)

/-- The code that a source stands for, as it is handed over. -/
def readBytecode (workplace : Workplace) (source : Text) : Json :=
  .str (Text.strip (workplace.read source))

end Workplace

namespace Command

/-- How a label is printed. -/
def renderLabel (label : Option Text) : Text :=
  label.getD "none"

/-- How a verdict is printed. -/
def renderVerdict : Verdict → Text
  | .standard label => label
  | .proxy finding => finding.toJson.write .spaced
  | .nothing => "none"

/-- The strategy and the threshold that are chosen by what was given for a threshold. -/
def strategyFor : Given Binary64 → Strategy × Number
  | .absent => (.minMax, .hundred)
  | .vacant => (.percent, .hundred)
  | .value percent => (.percent, .double percent)

/-- Once a contract has been scored, there has to be a threshold for percentages. -/
def requireThreshold (percent : Given Binary64) : Except CommandError Unit :=
  if percent = .vacant then .error (.broken .noThreshold) else .ok ()

/-- How a candidate is printed with its signature text. -/
def renderDescribed (described : Text × Option Text) : Text :=
  described.1 ++ " " ++ described.2.getD "?"

/-- The lines that list selectors. A description is only given of the candidates in code. -/
def listSelectors (workplace : Workplace) (describe : Bool) :
    SelectorSource → Except CommandError (List Text)
  | .nowhere => .error (.broken .noSource)
  | .abi source => do
      if source.isEmpty then throw (.broken .noSource)
      let abi ← workplace.readAbi source
      let selectors ← (Abi.selectors abi).mapError fun fault => .invalid (.abi fault)
      return selectors.toList
  | .bytecode source => do
      let code ← (Code.ofJson (workplace.readBytecode source)).mapError fun fault =>
        .invalid (.code fault)
      if describe then return (Registry.bundled.describeLiterals code).map renderDescribed
      else return code.literals.toList

/-- The URL that was given, or else the one that is set. -/
def urlFor (settings : Settings) : Option Text → Text
  | some url => if url.isEmpty then settings.rpcUrl else url
  | none => settings.rpcUrl

/-- The bound that was given, or else the one that is set. A bound of zero counts as none. -/
def boundFor (settings : Settings) : Option Int → Int
  | some bound => if bound = 0 then settings.maxProxyNodes else bound
  | none => settings.maxProxyNodes

/-- The result of a command that asks no node. -/
def offline (result : Except CommandError Text) : ExceptT CommandError Dialogue Text :=
  match result with
  | .ok text => return text
  | .error fault => throw fault

/-- The result of a lookup, as a label is printed. -/
def online (lookup : Lookup (Option Text)) : ExceptT CommandError Dialogue Text := do
  match ← (lookup.run : Dialogue _) with
  | .ok label => return renderLabel label
  | .error fault => throw (.lookup fault)

/-- The result of a command. -/
def result (workplace : Workplace) (settings : Settings) :
    Command → ExceptT CommandError Dialogue Text
  | .abi source percent => offline do
      let abi ← workplace.readAbi source
      let (strategy, threshold) := strategyFor percent
      let label ← (classifyAbi abi .bundled strategy threshold).mapError .invalid
      requireThreshold percent
      return renderLabel label
  | .bytecode source percent => offline do
      let (strategy, threshold) := strategyFor percent
      let verdict ←
        (classifyCode (workplace.readBytecode source) .bundled strategy threshold).mapError .invalid
      requireThreshold percent
      return renderVerdict verdict
  | .sigs source describe => offline do
      return List.intercalate "\n" (← listSelectors workplace describe source)
  | .proxy contract rpcUrl => online (Proxy.firstTarget? (urlFor settings rpcUrl) contract none)
  | .address contract rpcUrl maxNodes =>
      online (Chain.standardAt (urlFor settings rpcUrl) contract none (boundFor settings maxNodes)
        .bundled)

/-- What a command leaves behind. The settings are read before anything else. -/
def execute (environment : String → Text) (workplace : Workplace) (command : Command) :
    Dialogue (Except Breakdown CommandOutcome) :=
  match Settings.ofEnvironment environment with
  | .error fault => return .ok (.refused fault.message)
  | .ok settings => do
      match ← (command.result workplace settings).run with
      | .ok text => return .ok (.printed text)
      | .error fault => return CommandOutcome.ofError fault

end Command

namespace CommandLine

/-- What a list of arguments leads to. -/
def run (environment : String → Text) (workplace : Workplace) (arguments : List Text) :
    Dialogue (Except Breakdown CommandOutcome) :=
  match Invocation.ofArguments? arguments with
  | some (.command command) => command.execute environment workplace
  | some .help => return .ok .help
  | none => return .ok .usage

end CommandLine

end TokenLens
