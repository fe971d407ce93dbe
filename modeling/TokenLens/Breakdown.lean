/-!
# Breakdowns

Failures that are nobody's answer: they end a piece of work without a message of its own. The
command line passes them on, and the service answers them with status 500.
-/

namespace TokenLens

/-- Why a piece of work ended without an answer. -/
inductive Breakdown where
  | tooDeep
  | unencodable
  | missingType
  | malformedErrorMember
  | noSource
  | noThreshold
deriving DecidableEq, Repr

/-- What can be said about a breakdown. -/
def Breakdown.message : Breakdown → String
  | .tooDeep => "The input is nested too deeply"
  | .unencodable => "A signature holds one half of a surrogate pair"
  | .missingType => "An entry has neither a name nor a type"
  | .malformedErrorMember => "The error member of a reply is no object"
  | .noSource => "There is no source to read from"
  | .noThreshold => "There is no threshold to compare with"

end TokenLens
