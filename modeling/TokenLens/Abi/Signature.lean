import TokenLens.Hash.Keccak
import TokenLens.Text.Utf8

/-!
# Signatures

The text `name(type,type)` of a function or an event, and its hash. A tuple is written as its
components in parentheses, with whatever follows the word `tuple` in its type behind them. The hash
is taken of the text without its spaces, in UTF-8, which has no bytes for one half of a surrogate
pair.
-/

namespace TokenLens

/-- The type of a parameter. The suffix of a tuple is empty or the dimensions of an array. -/
inductive ParamType where
  | elementary (name : Text)
  | tuple (components : List ParamType) (suffix : Text)
deriving Inhabited

namespace ParamType

mutual

/-- A type as a signature shows it. -/
def text : ParamType → Text
  | .elementary name => name
  | .tuple components suffix => "(" ++ listText components ++ ")" ++ suffix
termination_by structural type => type

/-- Types with commas between them. -/
def listText : List ParamType → Text
  | [] => []
  | [type] => text type
  | type :: next :: rest => text type ++ "," ++ listText (next :: rest)
termination_by structural types => types

end

mutual

/-- How many tuples stand inside each other in a type. -/
def depth : ParamType → Nat
  | .elementary _ => 0
  | .tuple components _ => listDepth components + 1
termination_by structural type => type

/-- How many tuples stand inside each other in some type of a list. -/
def listDepth : List ParamType → Nat
  | [] => 0
  | type :: rest => max (depth type) (listDepth rest)
termination_by structural types => types

end

/-- How many tuples may stand inside each other. -/
def maxDepth : Nat := 326

end ParamType

/-- The name of a function or an event with the types of its parameters. -/
structure Signature where
  name : Text
  inputs : List ParamType
deriving Inhabited

namespace Signature

/-- A signature as it is shown. -/
def text (signature : Signature) : Text :=
  signature.name ++ "(" ++ ParamType.listText signature.inputs ++ ")"

/-- Whether the text of a signature can be hashed: no half of a pair stands in it alone. -/
def isEncodable (signature : Signature) : Bool :=
  signature.text.chars?.isSome

/-- The bytes that are hashed: those of the text without its spaces. -/
def hashedBytes (text : Text) : List UInt8 :=
  Utf8.encode (text.filter (· ≠ .char ' '))

/-- The hash of a signature. -/
def hash (signature : Signature) : List UInt8 :=
  Keccak.hash (hashedBytes signature.text)

end Signature

end TokenLens
