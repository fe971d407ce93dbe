import TokenLens.Number.Binary64

/-!
# The shortest text of a double

The fewest decimal digits that read back to the number, and of those the nearest; a tie goes to the
even digit. The search tries one digit, two digits and so on: for each count it tests the two
neighbours of the number on that decimal grid against the interval of values that round to it. The
ends of the interval belong to it exactly when the significand is even, and the interval is half as
wide below a power of two.

Layout: positional when the leading digit stands for 10^-4 to 10^15, with `.0` after a whole
number; otherwise one digit, a point if more digits follow, and a signed exponent of at least two
digits.
-/

namespace TokenLens

/-- The value `digits * 10 ^ exponent`. -/
structure Decimal where
  digits : Nat
  exponent : Int
deriving DecidableEq, Repr

namespace Decimal

/-- Compare `left * 10 ^ tens` with `right * 2 ^ twos` exactly. -/
def compareScaled (left : Nat) (tens : Int) (right : Nat) (twos : Int) : Ordering :=
  compare (left * Nat.pow 10 tens.toNat * Nat.pow 2 (-twos).toNat)
    (right * Nat.pow 2 twos.toNat * Nat.pow 10 (-tens).toNat)

/-- Whether a decimal lies among the values that round to `significand * 2 ^ (shift - 1074)`. -/
def readsBack (significand shift : Nat) (decimal : Decimal) : Bool :=
  let narrow := significand = Nat.pow 2 52 && 0 < shift
  let low := if narrow then 4 * significand - 1 else 4 * significand - 2
  let high := 4 * significand + 2
  let twos := (shift : Int) - 1076
  let endsBelong := significand % 2 = 0
  let atLow := compareScaled decimal.digits decimal.exponent low twos
  let atHigh := compareScaled decimal.digits decimal.exponent high twos
  (atLow == .gt || (endsBelong && atLow == .eq)) && (atHigh == .lt || (endsBelong && atHigh == .eq))

/-- The least power of ten above a positive value: estimated from its binary logarithm, then found
among the five powers around the estimate. -/
def scaleOf (significand shift : Nat) : Int :=
  let twos := (shift : Int) - 1074
  let estimate := ((significand.log2 : Int) + twos) * 30103 / 100000
  ([estimate - 1, estimate, estimate + 1, estimate + 2, estimate + 3].find?
    fun power => compareScaled 1 power significand twos == .gt).getD (estimate + 2)

/-- Of the two neighbours of a value on the grid of a power of ten, the one that reads back; of two,
the nearer, and the even one on a tie. -/
def onGrid? (significand shift : Nat) (power : Int) : Option Decimal :=
  let twos := (shift : Int) - 1074
  let numerator := significand * Nat.pow 2 twos.toNat * Nat.pow 10 (-power).toNat
  let denominator := Nat.pow 2 (-twos).toNat * Nat.pow 10 power.toNat
  let lower := numerator / denominator
  let lowerReads := readsBack significand shift ⟨lower, power⟩
  let upperReads := readsBack significand shift ⟨lower + 1, power⟩
  match lowerReads, upperReads with
  | false, false => none
  | true, false => some ⟨lower, power⟩
  | false, true => some ⟨lower + 1, power⟩
  | true, true => some ⟨Binary64.nearestEven numerator denominator, power⟩

/-- A decimal without the zeros at its end, at most as many as the count. -/
def dropZeros : Nat → Decimal → Decimal
  | 0, decimal => decimal
  | count + 1, decimal =>
      if decimal.digits % 10 = 0 then dropZeros count ⟨decimal.digits / 10, decimal.exponent + 1⟩
      else decimal

/-- The exact decimal value of a number. -/
def exactly (significand shift : Nat) : Decimal :=
  let twos := (shift : Int) - 1074
  ⟨significand * Nat.pow 2 twos.toNat * Nat.pow 5 (-twos).toNat, min twos 0⟩

/-- The decimal of fewest digits that reads back to a positive number. Seventeen digits always
suffice; the exact value stands for a search that ends without a hit. -/
def shortest (significand shift : Nat) : Decimal :=
  let scale := scaleOf significand shift
  match (List.range 17).findSome? fun (count : Nat) =>
      onGrid? significand shift (scale - 1 - (count : Int)) with
  | some decimal => dropZeros 17 decimal
  | none => exactly significand shift

/-- A decimal laid out positionally or with an exponent. -/
def layout (decimal : Decimal) : String :=
  let digits := (toString decimal.digits).toList
  let leading := decimal.exponent + digits.length - 1
  String.ofList <|
    if leading < -4 || 16 ≤ leading then
      let fraction := digits.drop 1
      let exponent := (toString leading.natAbs).toList
      digits.take 1 ++ (if fraction.isEmpty then [] else '.' :: fraction) ++
        ['e', if leading < 0 then '-' else '+'] ++
        (if exponent.length < 2 then '0' :: exponent else exponent)
    else if 0 ≤ decimal.exponent then
      digits ++ List.replicate decimal.exponent.toNat '0' ++ ['.', '0']
    else if 0 ≤ leading then
      let whole := (leading + 1).toNat
      digits.take whole ++ '.' :: digits.drop whole
    else '0' :: '.' :: List.replicate (-leading - 1).toNat '0' ++ digits

end Decimal

namespace Binary64

/-- The sign, magnitude or name of a number, given the names of what is not a number and of
infinity. -/
def textWith (nanName infinityName : String) : Binary64 → String
  | .nan => nanName
  | .infinite negative => (if negative then "-" else "") ++ infinityName
  | .finite negative significand shift =>
      (if negative then "-" else "") ++
        (if significand = 0 then "0.0" else (Decimal.shortest significand shift).layout)

/-- A number as messages show it. -/
def text : Binary64 → String := textWith "nan" "inf"

end Binary64

end TokenLens
