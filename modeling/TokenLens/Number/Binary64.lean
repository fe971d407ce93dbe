/-!
# Double-precision numbers

The numbers of the binary64 format as exact values. Every finite one is a whole number of *units* of
2^-1074, so comparison is comparison of integers, and rounding a quotient is rounding one division
of natural numbers. There is no arithmetic on rounded values: each number that is computed here is
one exact quotient, rounded once.
-/

namespace TokenLens

/-- A binary64 number. A finite one is `significand * 2 ^ shift` units of 2^-1074, with its sign. -/
inductive Binary64 where
  | nan
  | infinite (negative : Bool)
  | finite (negative : Bool) (significand shift : Nat)
deriving DecidableEq, Repr, Inhabited

namespace Binary64

/-- Positive zero. -/
def zero : Binary64 := .finite false 0 0

/-- A quotient of natural numbers rounded to the nearest integer, a half to the even one. -/
def nearestEven (numerator denominator : Nat) : Nat :=
  let quotient := numerator / denominator
  let twice := 2 * (numerator % denominator)
  if twice < denominator then quotient
  else if denominator < twice then quotient + 1
  else if quotient % 2 = 0 then quotient else quotient + 1

/-- The shift at which a number of units, rounded down, has at most fifty-three binary digits. -/
def shiftFor (units : Nat) : Nat :=
  units.log2 - 52

/-- The largest shift of a finite number. -/
def maxShift : Nat := 2045

/-- The number nearest to a quotient, a half going to the even significand. -/
def ofQuotient (negative : Bool) (numerator denominator : Nat) : Binary64 :=
  let scaled := numerator * Nat.pow 2 1074
  let shift := shiftFor (scaled / denominator)
  let significand := nearestEven scaled (denominator * Nat.pow 2 shift)
  if significand = Nat.pow 2 53 then
    if shift + 1 ≤ maxShift then .finite negative (Nat.pow 2 52) (shift + 1) else .infinite negative
  else if shift ≤ maxShift then .finite negative significand shift
  else .infinite negative

/-- The number nearest to `digits * 10 ^ exponent`. Beyond the two outer bounds the value is past
the largest finite number or below half of the least positive one, and no power is computed. -/
def ofDecimal (negative : Bool) (digits : Nat) (exponent : Int) : Binary64 :=
  if digits = 0 then .finite negative 0 0
  else if 400 < exponent then .infinite negative
  else if exponent + 400 + digits.log2 < 0 then .finite negative 0 0
  else ofQuotient negative (digits * Nat.pow 10 exponent.toNat)
    (Nat.pow 10 (-exponent).toNat)

/-- The sixty-four bits of the format, as a number. Every NaN is the quiet one without payload. -/
def bits : Binary64 → Nat
  | .nan => 2047 * Nat.pow 2 52 + Nat.pow 2 51
  | .infinite negative => (if negative then Nat.pow 2 63 else 0) + 2047 * Nat.pow 2 52
  | .finite negative significand shift =>
      (if negative then Nat.pow 2 63 else 0) + shift * Nat.pow 2 52 + significand

/-- The finite number with the given units and sign, as a signed number of units. -/
def signedUnits (negative : Bool) (significand shift : Nat) : Int :=
  let units : Nat := significand * Nat.pow 2 shift
  if negative then -(units : Int) else units

end Binary64

/-- A place on the number line with both ends, in units of 2^-1074. -/
inductive Place where
  | below
  | units (count : Int)
  | above
deriving DecidableEq, Repr

/-- The order of places. -/
def Place.le : Place → Place → Bool
  | .below, _ => true
  | _, .above => true
  | .units left, .units right => left ≤ right
  | _, _ => false

/-- A number as a document or an option states it: an exact integer or a double. -/
inductive Number where
  | integer (value : Int)
  | double (value : Binary64)
deriving DecidableEq, Repr

namespace Binary64

/-- Where a number lies; nowhere if it is not a number. -/
def place? : Binary64 → Option Place
  | .nan => none
  | .infinite negative => some (if negative then .below else .above)
  | .finite negative significand shift => some (.units (signedUnits negative significand shift))

end Binary64

namespace Number

/-- Where a number lies; an integer lies exactly where it is, however large. -/
def place? : Number → Option Place
  | .integer value => some (.units (value * (Nat.pow 2 1074 : Nat)))
  | .double value => value.place?

/-- Whether one number is at most another. Nothing compares with what is not a number. -/
def le (left right : Number) : Bool :=
  match left.place?, right.place? with
  | some leftPlace, some rightPlace => leftPlace.le rightPlace
  | _, _ => false

end Number

end TokenLens
