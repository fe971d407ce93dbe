import TokenLens.Evm.Literals
import TokenLens.Standard.Basic

/-!
# Registries

An ordered list of standards. `Registry.ofStandards` accepts a list exactly when it holds at least
one standard, no two have one name, no least tier is empty, and the tiers of each standard nest.
Earlier standards are preferred wherever two of them do equally well.
-/

namespace TokenLens

/-- Why standards make no registry. -/
inductive RegistryError where
  | empty
  | duplicate (label : Text)
  | emptyMin (label : Text)
  | minOutsideFull (label : Text) (missing : List Text)
  | fullOutsideMax (label : Text) (missing : List Text)
  | unreadable (file : Text)
deriving DecidableEq, Repr

/-- What is said about standards that make no registry. -/
def RegistryError.message : RegistryError → Text
  | .empty => "Registry needs at least one standard"
  | .duplicate label => "Duplicate standard: " ++ label
  | .emptyMin label => label ++ ": min tier is empty"
  | .minOutsideFull label missing =>
      label ++ ": min selectors missing from full tier: " ++ Json.inspectTexts missing
  | .fullOutsideMax label missing =>
      label ++ ": full selectors missing from max tier: " ++ Json.inspectTexts missing
  | .unreadable file => "Cannot load reference ABI " ++ file

namespace Standard

/-- Accept a standard whose tiers nest above a least tier that is not empty. -/
def validate (standard : Standard) : Except RegistryError Unit :=
  let missingFromFull := standard.min.without standard.full
  let missingFromMax := standard.full.without standard.max
  if standard.min.isEmpty then .error (.emptyMin standard.label)
  else if !missingFromFull.isEmpty then .error (.minOutsideFull standard.label missingFromFull)
  else if !missingFromMax.isEmpty then .error (.fullOutsideMax standard.label missingFromMax)
  else .ok ()

/-- Accept standards one after the other, none of which has a name that was seen before. -/
def validateAll (seen : List Text) : List Standard → Except RegistryError Unit
  | [] => .ok ()
  | standard :: rest =>
      if seen.contains standard.name then .error (.duplicate standard.label)
      else do
        standard.validate
        validateAll (standard.name :: seen) rest

end Standard

/-- An ordered list of standards to compare contracts with. -/
structure Registry where
  standards : List Standard

namespace Registry

/-- The registry of standards that pass every check. -/
def ofStandards (standards : List Standard) : Except RegistryError Registry :=
  if standards.isEmpty then .error .empty
  else do
    Standard.validateAll [] standards
    return ⟨standards⟩

/-- The standard of a name, given in any letter case. -/
def get? (registry : Registry) (name : Text) : Option Standard :=
  registry.standards.find? fun standard => standard.name = Text.lower name

/-- The signature text of a selector in any spelling, from the first standard that knows one. -/
def describe (registry : Registry) (selector : Text) : Option Text :=
  registry.standards.findSome? fun standard =>
    Keyed.get? (Selector.ofText selector) standard.names

/-- The candidates in code, each with its signature text where one is known. -/
def describeLiterals (registry : Registry) (code : Code) : List (Text × Option Text) :=
  code.literals.toList.map fun literal => (literal, registry.describe literal)

end Registry

end TokenLens
