import TokenLens.Text.Basic
import TokenLens.Text.CaseTable

/-!
# Capital and small letters

The full case mappings: a code point may become several, and a capital sigma at the end of a word
becomes the final small sigma. Below U+0080 the mappings are those of the twenty-six letters.
-/

namespace TokenLens.Text

/-- The image of a code point under runs of mapped code points, the point itself outside of them. -/
def mapByRuns (runs : List CaseRun) (point : CodePoint) : CodePoint :=
  match runs.find? (·.holds point.toNat) with
  | some run => .ofNat (point.toNat + run.distance).toNat
  | none => point

/-- The capital form of one code point. -/
def upperPoint (point : CodePoint) : Text :=
  if point.toNat < 0x80 then
    [if 97 ≤ point.toNat ∧ point.toNat ≤ 122 then .ofNat (point.toNat - 32) else point]
  else match upperExpansions.lookup point.toNat with
    | some numbers => numbers.map .ofNat
    | none => [mapByRuns upperRuns point]

/-- A text in capital letters. -/
def upper (text : Text) : Text :=
  text.flatMap upperPoint

/-- Whether a code point has case and is not passed over in the search for neighbours. -/
def isCased (point : CodePoint) : Bool :=
  inRanges casedRanges point.toNat

/-- Whether a code point is passed over in the search for neighbours. -/
def isCaseIgnorable (point : CodePoint) : Bool :=
  inRanges caseIgnorableRanges point.toNat

/-- Whether the nearest code point that is not passed over has case. -/
def startsCased (neighbours : Text) : Bool :=
  match neighbours.dropWhile isCaseIgnorable with
  | [] => false
  | nearest :: _ => isCased nearest

/-- The small form of one code point between what stands before it, nearest first, and after it. -/
def lowerPointBetween (before : Text) (point : CodePoint) (after : Text) : Text :=
  if point.toNat < 0x80 then
    [if 65 ≤ point.toNat ∧ point.toNat ≤ 90 then .ofNat (point.toNat + 32) else point]
  else if point.toNat = 0x3A3 then
    [.ofNat (if startsCased before && !startsCased after then 0x3C2 else 0x3C3)]
  else match lowerExpansions.lookup point.toNat with
    | some numbers => numbers.map .ofNat
    | none => [mapByRuns lowerRuns point]

/-- The small forms of the rest of a text, given what was already passed, nearest first. -/
def lowerFrom (before : Text) : Text → Text
  | [] => []
  | point :: after => lowerPointBetween before point after ++ lowerFrom (point :: before) after

/-- A text in small letters. -/
def lower (text : Text) : Text :=
  lowerFrom [] text

end TokenLens.Text
