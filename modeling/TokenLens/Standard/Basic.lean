import TokenLens.Abi.Surface

/-!
# Token standards

A standard is three tiers of selectors: what a contract must offer to qualify at all, the canonical
surface, and that surface with its common extensions. It also knows the signature texts of the
selectors in its widest tier, as far as that tier was given as a list of entries.
-/

namespace TokenLens

/-- A token standard. -/
structure Standard where
  name : Text
  min : SelectorSet
  full : SelectorSet
  max : SelectorSet
  names : List (Text × Text)

namespace Standard

/-- The name under which a standard is reported. -/
def label (standard : Standard) : Text :=
  Text.upper standard.name

/-- The signature texts of declarations under their selectors. Of two declarations with one
selector the later one names it. -/
def namesOf (declarations : List Declaration) : List (Text × Text) :=
  Keyed.ofList (declarations.map fun declaration =>
    (declaration.selector, declaration.signature.text))

/-- The entries that a widest tier lists by itself. The text of an ABI and a compiler artifact list
none. -/
def ownEntries : Json → List Json
  | .arr entries => entries
  | _ => []

/-- The standard with the given declarations in its tiers. -/
def ofDeclarations (name : Text) (min full max : List Declaration) : Standard :=
  ⟨name, Abi.selectorsOf min, Abi.selectorsOf full, Abi.selectorsOf max, namesOf max⟩

/-- The standard with the given ABIs as its tiers, which are read in the order of their size. -/
def ofAbis (name : Text) (min full max : Json) : Except AbiError Standard := do
  let minSelectors ← Abi.selectors min
  let fullSelectors ← Abi.selectors full
  let maxSelectors ← Abi.selectors max
  let named ← (Declaration.ofEntries (ownEntries max)).mapError .entry
  return ⟨name, minSelectors, fullSelectors, maxSelectors, namesOf named⟩

end Standard

end TokenLens
