import TokenLens.Number.Binary64
import TokenLens.Standard.Registry

/-!
# Scores

How well a contract fits each standard of a registry. What a contract offers is given as a test on
selectors, whether it comes from an ABI or from code.

- The *percent* of a standard is the share of its canonical tier that is present, rounded once.
- The *points* of a standard are the selectors of its widest tier that are present; only a standard
  whose whole least tier is present has any.

In both rankings the first of several equally good standards wins.
-/

namespace TokenLens

/-- The share of a standard's canonical tier that is present. -/
structure PercentScore where
  label : Text
  percent : Binary64
  checks : Nat
deriving DecidableEq, Repr

/-- The points of a standard that qualifies. -/
structure PointScore where
  label : Text
  points : Nat
deriving DecidableEq, Repr

/-- The percentage that a part makes of a whole; zero if the whole is empty. -/
def percentOf (part whole : Nat) : Binary64 :=
  if whole = 0 then .zero else .ofQuotient false (100 * part) whole

/-- The first element that no other beats, where an element has to beat the best before it. -/
def firstBest? {α : Type} (beats : α → α → Bool) : List α → Option α
  | [] => none
  | first :: rest =>
      some (rest.foldl (fun best next => if beats next best then next else best) first)

/-- Whether a percentage is higher, or as high and out of more checks. -/
def PercentScore.beats (challenger best : PercentScore) : Bool :=
  let atMost (left right : Binary64) : Bool := Number.le (.double left) (.double right)
  !atMost challenger.percent best.percent ||
    (atMost best.percent challenger.percent && best.checks < challenger.checks)

namespace Standard

/-- The share of the canonical tier that is present. -/
def percentScore (present : Text → Bool) (standard : Standard) : PercentScore :=
  ⟨standard.label, percentOf (standard.full.count present) standard.full.size,
   standard.full.size⟩

/-- Whether the whole least tier is present. -/
def qualifies (present : Text → Bool) (standard : Standard) : Bool :=
  standard.min.all present

/-- The points in the widest tier. -/
def pointScore (present : Text → Bool) (standard : Standard) : PointScore :=
  ⟨standard.label, standard.max.count present⟩

end Standard

namespace Registry

/-- The percentages of all standards, in order. -/
def percentScores (present : Text → Bool) (registry : Registry) : List PercentScore :=
  registry.standards.map (·.percentScore present)

/-- The points of the standards that qualify, in order. -/
def pointScores (present : Text → Bool) (registry : Registry) : List PointScore :=
  (registry.standards.filter (·.qualifies present)).map (·.pointScore present)

/-- The label with the highest percentage, if that reaches the threshold. -/
def bestByPercent (present : Text → Bool) (registry : Registry) (threshold : Number) :
    Option Text :=
  match firstBest? PercentScore.beats (registry.percentScores present) with
  | some best => if threshold.le (.double best.percent) then some best.label else none
  | none => none

/-- The label with the most points among the standards that qualify. -/
def bestByPoints (present : Text → Bool) (registry : Registry) : Option Text :=
  (firstBest? (fun challenger best => best.points < challenger.points)
    (registry.pointScores present)).map (·.label)

end Registry

end TokenLens
