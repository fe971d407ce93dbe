import TokenLens.Json.Basic
import TokenLens.Number.Shortest
import TokenLens.Text.Quoted

/-!
# Documents inside messages

A message shows a document in one of two ways: *displayed*, where a text stands for itself, or
*inspected*, where it is quoted. Inside lists and objects texts are quoted either way.
-/

namespace TokenLens.Json

mutual

/-- A document with its texts quoted. -/
def inspect : Json → Text
  | .null => "None"
  | .bool value => if value then "True" else "False"
  | .int value => toString value
  | .float value => value.text
  | .str text => Text.quoted text
  | .arr items => "[" ++ inspectItems items ++ "]"
  | .obj members => "\x7b" ++ inspectMembers members ++ "\x7d"
termination_by structural document => document

/-- Inspected items, separated by a comma and a space. -/
def inspectItems : List Json → Text
  | [] => []
  | [item] => inspect item
  | item :: next :: rest => inspect item ++ ", " ++ inspectItems (next :: rest)
termination_by structural items => items

/-- Inspected members: a quoted key, a colon and a space, and the value. -/
def inspectMembers : List (Text × Json) → Text
  | [] => []
  | [(key, value)] => Text.quoted key ++ ": " ++ inspect value
  | (key, value) :: next :: rest =>
      Text.quoted key ++ ": " ++ inspect value ++ ", " ++ inspectMembers (next :: rest)
termination_by structural members => members

end

/-- A document with a text standing for itself. -/
def display : Json → Text
  | .str text => text
  | document => inspect document

/-- A list of texts as messages show it. -/
def inspectTexts (texts : List Text) : Text :=
  inspect (.arr (texts.map .str))

end TokenLens.Json
