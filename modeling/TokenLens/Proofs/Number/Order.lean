import Mathlib.Order.WithBot
import TokenLens.Number.Binary64

/-!
# Numbers in order

Numbers are compared by their places on a line with both ends, so whatever has a place stands in a
linear order (`Binary64.le_iff`), integers and doubles alike. What is not a number has no place and
is at most nothing, itself included; quotients always have one.
-/

namespace TokenLens

/-- The integers with both ends, in which places lie. -/
def Line : Type := WithBot (WithTop Int)

namespace Line

instance : LinearOrder Line := inferInstanceAs (LinearOrder (WithBot (WithTop Int)))

/-- The end below. -/
def least : Line := (⊥ : WithBot (WithTop Int))

/-- An integer on the line. -/
def ofInt (count : Int) : Line := ((count : WithTop Int) : WithBot (WithTop Int))

/-- The end above. -/
def greatest : Line := ((⊤ : WithTop Int) : WithBot (WithTop Int))

/-- The end below is at most everything. -/
@[simp]
theorem least_le (point : Line) : least ≤ point :=
  @bot_le (WithBot (WithTop Int)) _ _ point

/-- Everything is at most the end above. -/
@[simp]
theorem le_greatest (point : Line) : point ≤ greatest :=
  @le_top (WithBot (WithTop Int)) _ _ point

/-- Integers keep their order. -/
@[simp]
theorem ofInt_le_ofInt {left right : Int} : ofInt left ≤ ofInt right ↔ left ≤ right :=
  WithBot.coe_le_coe.trans WithTop.coe_le_coe

/-- No integer is the end below. -/
@[simp]
theorem not_ofInt_le_least (count : Int) : ¬ ofInt count ≤ least :=
  WithBot.not_coe_le_bot _

/-- The end above is above the end below. -/
@[simp]
theorem not_greatest_le_least : ¬ greatest ≤ least :=
  WithBot.not_coe_le_bot _

/-- No integer is the end above. -/
@[simp]
theorem not_greatest_le_ofInt (count : Int) : ¬ greatest ≤ ofInt count := fun le =>
  WithTop.not_top_le_coe count (WithBot.coe_le_coe.1 le)

end Line

/-- Where a place lies. -/
def Place.onLine : Place → Line
  | .below => .least
  | .units count => .ofInt count
  | .above => .greatest

/-- Places are compared as they lie on the line. -/
theorem Place.le_iff {left right : Place} : left.le right = true ↔ left.onLine ≤ right.onLine := by
  cases left <;> cases right <;> simp [Place.le, onLine]

namespace Number

variable {left middle right : Number}

/-- A number is at most another if both have places, in that order. -/
theorem le_iff : left.le right = true ↔
    ∃ leftPlace rightPlace, left.place? = some leftPlace ∧ right.place? = some rightPlace ∧
      leftPlace.onLine ≤ rightPlace.onLine := by
  unfold le
  cases left.place? with
  | none => simp
  | some leftPlace =>
      cases right.place? with
      | none => simp
      | some rightPlace => simp [Place.le_iff]

/-- Numbers are compared by their places. -/
theorem le_iff_of_place? {leftPlace rightPlace : Place} (isLeft : left.place? = some leftPlace)
    (isRight : right.place? = some rightPlace) :
    left.le right = true ↔ leftPlace.onLine ≤ rightPlace.onLine := by
  rw [le, isLeft, isRight]
  exact Place.le_iff

/-- What is at most a number is at most all that the number is at most. -/
theorem le_trans (first : left.le middle = true) (second : middle.le right = true) :
    left.le right = true := by
  obtain ⟨leftPlace, middlePlace, isLeft, isMiddle, below⟩ := le_iff.1 first
  obtain ⟨samePlace, rightPlace, isSame, isRight, belowToo⟩ := le_iff.1 second
  obtain rfl : middlePlace = samePlace := Option.some.inj (isMiddle.symm.trans isSame)
  exact le_iff.2 ⟨leftPlace, rightPlace, isLeft, isRight, below.trans belowToo⟩

end Number

namespace Binary64

/-- Where a number lies; what is not a number is put below all others. -/
def onLine (value : Binary64) : Line :=
  (value.place?.map Place.onLine).getD .least

/-- All numbers but the one that is none have a place. -/
theorem exists_place {value : Binary64} (isNumber : value ≠ .nan) :
    ∃ place, value.place? = some place := by
  cases value with
  | nan => exact absurd rfl isNumber
  | infinite negative => exact ⟨_, rfl⟩
  | finite negative significand shift => exact ⟨_, rfl⟩

/-- Numbers are compared as they lie on the line. -/
theorem le_iff {left right : Binary64} (isLeft : left ≠ .nan) (isRight : right ≠ .nan) :
    Number.le (.double left) (.double right) = true ↔ left.onLine ≤ right.onLine := by
  obtain ⟨leftPlace, hasLeft⟩ := exists_place isLeft
  obtain ⟨rightPlace, hasRight⟩ := exists_place isRight
  rw [Number.le_iff]
  simp [Number.place?, onLine, hasLeft, hasRight]

/-- A quotient is a number. -/
theorem ofQuotient_ne_nan (negative : Bool) (numerator denominator : Nat) :
    ofQuotient negative numerator denominator ≠ .nan := by
  dsimp only [ofQuotient]
  split_ifs
  all_goals exact nofun

end Binary64

end TokenLens
