import TokenLens.Proxy.Probe

/-!
# The targets of a contract

The addresses that a contract delegates to. A literal in its code is the only target; otherwise the
live contract is probed. A contract without code has no target. Code that cannot be fetched is noted
and leaves no target either.
-/

namespace TokenLens.Proxy

/-- The address that code names itself. -/
def literalTarget? (code : Code) : Option Text :=
  code.finding?.bind (·.target?)

/-- The code of a contract as it was handed over, or as the node knows it; none if the node fails
to tell. -/
def codeAt? (url address : Text) : Option Json → Lookup (Option Code)
  | some bytecode => some <$> Lookup.codeOf bytecode
  | none => do
      match ← Lookup.tryRead ⟨url, .code address⟩ with
      | .ok bytecode => some <$> Lookup.codeOf bytecode
      | .error error =>
          Lookup.takeNote (.codeUnavailable address error)
          return none

/-- Every distinct target of a contract with the given code. -/
def targetsOfCode (url address : Text) (code : Code) : Lookup (List Text) :=
  if code.bytes.isEmpty then return []
  else match literalTarget? code with
    | some target => return [target]
    | none => Probe.gather url address

/-- Every distinct target of a contract. -/
def targets (url address : Text) (bytecode : Option Json) : Lookup (List Text) := do
  match ← codeAt? url address bytecode with
  | some code => targetsOfCode url address code
  | none => return []

/-- The target of a contract with the given code that is found first. -/
def firstTargetOfCode? (url address : Text) (code : Code) : Lookup (Option Text) :=
  if code.bytes.isEmpty then return none
  else match literalTarget? code with
    | some target => return some target
    | none => Probe.race url address Probe.all

/-- The target of a contract that is found first. -/
def firstTarget? (url address : Text) (bytecode : Option Json) : Lookup (Option Text) := do
  match ← codeAt? url address bytecode with
  | some code => firstTargetOfCode? url address code
  | none => return none

end TokenLens.Proxy
