import TokenLens.Text.Basic

/-!
# Occurrence of one text in another

The one test by which a selector counts as present in code: its digits occur somewhere in the hex
text, at an even or an odd position.
-/

namespace TokenLens.Text

/-- Whether the needle occurs as a contiguous part of the text. -/
def occursIn (needle : Text) : Text → Bool
  | [] => needle.isEmpty
  | point :: rest => needle.isPrefixOf (point :: rest) || occursIn needle rest

/-- Whether a text mentions a selector. -/
def mentions (text selector : Text) : Bool :=
  occursIn selector text

end TokenLens.Text
