import TokenLens.Proxy.Finding
import TokenLens.Verdict.InvalidInput
import TokenLens.Verdict.Score

/-!
# Verdicts

What a contract is taken for. A standard that fits is its verdict; code that fits none is told apart
by how it delegates. In an ABI a selector is present when some declaration has it, in code when its
text occurs anywhere in the hexadecimal text.
-/

namespace TokenLens

/-- What a contract is taken for. -/
inductive Verdict where
  | standard (label : Text)
  | proxy (finding : Finding)
  | nothing
deriving DecidableEq, Repr

namespace Verdict

/-- The standard that a contract is taken for. -/
def label? : Verdict → Option Text
  | .standard label => some label
  | .proxy _ => none
  | .nothing => none

/-- The finding about a contract that fits no standard. -/
def finding? : Verdict → Option Finding
  | .standard _ => none
  | .proxy finding => some finding
  | .nothing => none

end Verdict

/-- How a label is chosen. -/
inductive Strategy where
  | minMax
  | percent
deriving DecidableEq, Repr

/-- The strategy that a document names. -/
def Strategy.ofJson : Json → Except InvalidInput Strategy
  | .str text =>
      if text = "min_max" then .ok .minMax
      else if text = "percent" then .ok .percent
      else .error (.strategy (.str text))
  | value => .error (.strategy value)

namespace Registry

/-- The label that a strategy chooses. Only percentages are held against the threshold. -/
def best (present : Text → Bool) (registry : Registry) (strategy : Strategy)
    (threshold : Number) : Option Text :=
  match strategy with
  | .minMax => registry.bestByPoints present
  | .percent => registry.bestByPercent present threshold

end Registry

namespace Code

/-- The verdict on code for which a label was sought. -/
def verdictAfter (code : Code) : Option Text → Verdict
  | some label => .standard label
  | none =>
      match code.finding? with
      | some finding => .proxy finding
      | none => .nothing

/-- The verdict of a strategy on code. -/
def verdict (code : Code) (registry : Registry) (strategy : Strategy) (threshold : Number) :
    Verdict :=
  code.verdictAfter (registry.best (Text.mentions code.text) strategy threshold)

end Code

/-- The threshold where none is given. -/
def Number.hundred : Number := .integer 100

/-- The label of a strategy for an ABI. -/
def classifyAbi (abi : Json) (registry : Registry) (strategy : Strategy) (threshold : Number) :
    Except InvalidInput (Option Text) := do
  let selectors ← (Abi.selectors abi).mapError InvalidInput.abi
  return registry.best selectors.contains strategy threshold

/-- The verdict of a strategy on code in the form in which it is handed over. -/
def classifyCode (bytecode : Json) (registry : Registry) (strategy : Strategy)
    (threshold : Number) : Except InvalidInput Verdict := do
  let code ← (Code.ofJson bytecode).mapError InvalidInput.code
  return code.verdict registry strategy threshold

/-- Whether code could hold every function and event of an ABI. A selector counts as present even
inside of unrelated data. -/
def couldImplement (abi bytecode : Json) : Except InvalidInput Bool := do
  let selectors ← (Abi.selectors abi).mapError InvalidInput.abi
  let code ← (Code.ofJson bytecode).mapError InvalidInput.code
  return Abi.allOccurIn selectors.toList code.text

end TokenLens
