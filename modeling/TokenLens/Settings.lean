import TokenLens.Chain.Walk

/-!
# Settings

What the environment may set: the node to ask, the bound of walks, how many probes run at once, and
how much is logged. A variable that is empty counts as absent. Variables are read in this order, and
the first malformed one is reported.
-/

namespace TokenLens

/-- Why the environment was refused. -/
inductive SettingsError where
  | notInteger (name value : Text)
  | notPositive (name : Text) (value : Int)
  | unknownLevel (value : Text)
deriving DecidableEq, Repr

/-- The names of log levels, least first. -/
def logLevels : List Text :=
  ["DEBUG", "INFO", "WARNING", "ERROR", "CRITICAL"]

/-- What is said about an environment that was refused. -/
def SettingsError.message : SettingsError → Text
  | .notInteger name value => name ++ " must be an integer, got " ++ Text.quoted value
  | .notPositive name value => name ++ " must be positive, got " ++ toString value
  | .unknownLevel value =>
      "LOG_LEVEL must be one of " ++ List.intercalate ", " logLevels ++ ", got " ++
        Text.quoted value

/-- What the environment sets. -/
structure Settings where
  rpcUrl : Text
  maxProxyNodes : Int
  probeWorkers : Int
  logLevel : Text
deriving DecidableEq, Repr

namespace Settings

/-- What is set where the environment is silent. -/
def default : Settings :=
  ⟨"https://ethereum-rpc.publicnode.com", Chain.defaultBound, 8, "INFO"⟩

/-- A positive whole number from the environment. -/
def positive (name value : Text) (absent : Int) : Except SettingsError Int :=
  if value.isEmpty then .ok absent
  else match Numeral.readInteger? value with
    | none => .error (.notInteger name value)
    | some number => if number < 1 then .error (.notPositive name number) else .ok number

/-- A log level from the environment, in any letter case. -/
def level (value absent : Text) : Except SettingsError Text :=
  if value.isEmpty then .ok absent
  else if logLevels.contains (Text.upper value) then .ok (Text.upper value)
  else .error (.unknownLevel value)

/-- The settings of an environment, which gives an empty text for a variable that is absent. -/
def ofEnvironment (environment : String → Text) : Except SettingsError Settings := do
  let url := environment "RPC_URL"
  let rpcUrl := if url.isEmpty then default.rpcUrl else url
  let maxProxyNodes ←
    positive "MAX_PROXY_NODES" (environment "MAX_PROXY_NODES") default.maxProxyNodes
  let probeWorkers ← positive "PROBE_WORKERS" (environment "PROBE_WORKERS") default.probeWorkers
  let logLevel ← level (environment "LOG_LEVEL") default.logLevel
  return ⟨rpcUrl, maxProxyNodes, probeWorkers, logLevel⟩

end Settings

end TokenLens
