import TokenLens.Abi.Surface
import TokenLens.Evm.Code

/-!
# Input that cannot be classified
-/

namespace TokenLens

/-- Why a contract that was handed over, or the way to score it, was refused. -/
inductive InvalidInput where
  | abi (fault : AbiError)
  | code (fault : CodeError)
  | strategy (value : Json)

/-- What is said about input that was refused. -/
def InvalidInput.message : InvalidInput → Text
  | .abi fault => fault.message
  | .code fault => fault.message
  | .strategy value => "Unknown strategy: " ++ value.inspect

/-- The breakdown behind a refusal, if there is one. -/
def InvalidInput.breakdown? : InvalidInput → Option Breakdown
  | .abi fault => fault.breakdown?
  | _ => none

end TokenLens
