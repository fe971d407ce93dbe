import TokenLens.Keyed
import TokenLens.Number.Binary64

/-!
# Documents

The values that ABIs, node answers and request bodies are made of. Whole numbers are exact and kept
apart from numbers with a fraction or an exponent; the members of an object keep their order.
-/

namespace TokenLens

/-- A document. -/
inductive Json where
  | null
  | bool (value : Bool)
  | int (value : Int)
  | float (value : Binary64)
  | str (text : Text)
  | arr (items : List Json)
  | obj (members : List (Text × Json))
deriving Inhabited

namespace Json

/-- The name of a document's kind, as messages give it. -/
def kindName : Json → String
  | .null => "NoneType"
  | .bool _ => "bool"
  | .int _ => "int"
  | .float _ => "float"
  | .str _ => "str"
  | .arr _ => "list"
  | .obj _ => "dict"

/-- The member of an object under a key; other documents have none. -/
def member? (key : Text) : Json → Option Json
  | .obj members => Keyed.get? key members
  | _ => none

/-- The members of an object; other documents count as an empty object. -/
def membersOrNone : Json → List (Text × Json)
  | .obj members => members
  | _ => []

/-- The number that a document states. Truth values are not numbers. -/
def number? : Json → Option Number
  | .int value => some (.integer value)
  | .float value => some (.double value)
  | _ => none

end Json

end TokenLens
