/-!
# Classes of characters as ranges

A class of characters is a list of closed ranges of code points. Lookup needs no order; the tables
that use it are nevertheless kept ascending and apart, so that each range is a maximal run.
-/

namespace TokenLens.Text

/-- Whether some range of the table holds the code point. -/
def inRanges (ranges : List (Nat × Nat)) (point : Nat) : Bool :=
  ranges.any fun range => range.1 ≤ point && point ≤ range.2

end TokenLens.Text
