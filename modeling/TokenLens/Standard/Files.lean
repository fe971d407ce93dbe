import TokenLens.Standard.Registry
import TokenLens.Text.Path

/-!
# Reference files

A registry may be kept in files, three for each standard: `NAME-min.json`, `NAME.json` and
`NAME-max.json`, with the name in capital letters. All three are read before the first of them is
taken as an ABI.
-/

namespace TokenLens

/-- Why a registry cannot be built from ABIs or files. -/
inductive LoadError where
  | abi (fault : AbiError)
  | registry (fault : RegistryError)
  | broken (cause : Breakdown)

/-- What is said about a registry that cannot be built. -/
def LoadError.message : LoadError → Text
  | .abi fault => fault.message
  | .registry fault => fault.message
  | .broken cause => cause.message

/-- The ABIs of the three tiers of a standard. -/
structure TierAbis where
  name : Text
  min : Json
  full : Json
  max : Json

namespace TierAbis

/-- The document in a file. -/
def readFile (contents : Text → Option Text) (file : Text) : Except LoadError Json :=
  match (contents file).map Json.read with
  | some (.ok document) => .ok document
  | some (.error .tooDeep) => .error (.broken .tooDeep)
  | _ => .error (.registry (.unreadable (Path.baseName file)))

/-- The tiers of a standard in its three files. -/
def ofFiles (contents : Text → Option Text) (name : Text) : Except LoadError TierAbis := do
  let stem := Text.upper name
  let min ← readFile contents (stem ++ "-min.json")
  let full ← readFile contents (stem ++ ".json")
  let max ← readFile contents (stem ++ "-max.json")
  return ⟨name, min, full, max⟩

/-- The standard with these tiers. -/
def standard (tiers : TierAbis) : Except LoadError Standard :=
  (Standard.ofAbis tiers.name tiers.min tiers.full tiers.max).mapError .abi

end TierAbis

namespace Registry

/-- The registry of standards given by the ABIs of their tiers. -/
def ofAbis (standards : List TierAbis) : Except LoadError Registry := do
  let built ← standards.mapM TierAbis.standard
  (ofStandards built).mapError .registry

/-- The registry of the named standards in files. -/
def ofFiles (contents : Text → Option Text) (names : List Text) :
    Except LoadError Registry := do
  let built ← names.mapM fun name => do (← TierAbis.ofFiles contents name).standard
  (ofStandards built).mapError .registry

end Registry

end TokenLens
