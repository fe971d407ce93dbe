import TokenLens.Abi.Declaration
import TokenLens.Json.Reader
import TokenLens.SelectorSet
import TokenLens.Text.Search

/-!
# The surface of a contract

What a contract offers to callers: the selectors of the functions and events in its ABI. An ABI is
handed over as a list of entries, as the text of one, or as a compiler artifact that holds one under
the key `abi`.
-/

namespace TokenLens

/-- Why a document is no ABI. -/
inductive AbiError where
  | invalidJson
  | notAList (kind : String)
  | entry (fault : EntryError)
  | broken (cause : Breakdown)

/-- What is said about a document that is no ABI. -/
def AbiError.message : AbiError → Text
  | .invalidJson => "ABI is not valid JSON"
  | .notAList kind => "ABI must be a list, got " ++ kind
  | .entry fault => fault.message
  | .broken cause => cause.message

/-- The breakdown behind a fault, if there is one. -/
def AbiError.breakdown? : AbiError → Option Breakdown
  | .entry (.broken cause) => some cause
  | .broken cause => some cause
  | _ => none

namespace Abi

/-- The document inside of a compiler artifact; every other document as it is. -/
def unwrap (document : Json) : Json :=
  (document.member? "abi").getD document

/-- The entries that a document lists. -/
def listed : Json → Except AbiError (List Json)
  | .arr entries => .ok entries
  | document => .error (.notAList document.kindName)

/-- The entries of an ABI in any of its forms. -/
def entries : Json → Except AbiError (List Json)
  | .str text =>
      match Json.read text with
      | .ok document => listed (unwrap document)
      | .error .tooDeep => .error (.broken .tooDeep)
      | .error _ => .error .invalidJson
  | document => listed (unwrap document)

/-- The declarations of an ABI, in order. -/
def declarations (abi : Json) : Except AbiError (List Declaration) := do
  (Declaration.ofEntries (← entries abi)).mapError .entry

/-- The selectors of declarations. -/
def selectorsOf (declarations : List Declaration) : SelectorSet :=
  .ofList (declarations.map Declaration.selector)

/-- The selectors of an ABI. -/
def selectors (abi : Json) : Except AbiError SelectorSet :=
  (declarations abi).map selectorsOf

/-- Whether every selector of a list occurs somewhere in a text. -/
def allOccurIn (selectors : List Text) (text : Text) : Bool :=
  selectors.all (Text.mentions text)

end Abi

end TokenLens
