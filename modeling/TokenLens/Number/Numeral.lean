import TokenLens.Number.Binary64
import TokenLens.Text.Blank
import TokenLens.Text.Digit

/-!
# Reading numerals

What settings, options and node answers may write for a number. Digits may be those of any script,
white space may stand around a numeral, a sign in front of it, and a single underscore between two
digits. A numeral in base sixteen may carry the mark `0x` after its sign, with one underscore after
the mark. A numeral in base ten of more than `maxDigits` digits is refused.
-/

namespace TokenLens.Numeral

open TokenLens.Text

/-- The plain spelling of one code point of a numeral: a space for white space, a digit of the first
ten for a digit of any script, and a character that no numeral contains for all else beyond
ASCII. -/
def plain (point : CodePoint) : Char :=
  if point.toNat < 127 then Char.ofNat point.toNat
  else if isWhiteSpace point then ' '
  else match decimalDigitValue? point with
    | some value => Char.ofNat (48 + value)
    | none => '?'

/-- Whether a plain character may stand around a numeral. -/
def isMargin (character : Char) : Bool :=
  character = ' ' || inRanges [(0x09, 0x0D)] character.toNat

/-- The plain spelling of a numeral without its margins. -/
def plainSpelling (text : Text) : List Char :=
  trimBoth isMargin (text.map plain)

/-- The value of a digit in a base of at most thirty-six. -/
def digitValue? (base : Nat) (character : Char) : Option Nat :=
  let point := character.toNat
  let value? :=
    if 48 ≤ point ∧ point ≤ 57 then some (point - 48)
    else if 97 ≤ point ∧ point ≤ 122 then some (point - 87)
    else if 65 ≤ point ∧ point ≤ 90 then some (point - 55)
    else none
  value?.filter (· < base)

/-- The values of digits with single underscores between them; at least one digit. -/
def digitRun? (base : Nat) : List Char → Option (List Nat)
  | [] => none
  | [character] => (digitValue? base character).map ([·])
  | character :: '_' :: rest => do
      let value ← digitValue? base character
      let values ← digitRun? base rest
      return value :: values
  | character :: next :: rest => do
      let value ← digitValue? base character
      let values ← digitRun? base (next :: rest)
      return value :: values

/-- The number that digits stand for, most significant first. -/
def valueOf (base : Nat) (digits : List Nat) : Nat :=
  digits.foldl (fun value digit => value * base + digit) 0

/-- A sign and what follows it. -/
def splitSign : List Char → Bool × List Char
  | '+' :: rest => (false, rest)
  | '-' :: rest => (true, rest)
  | text => (false, text)

/-- A text without the mark of base sixteen and the one underscore that may follow the mark. -/
def dropHexMark : List Char → List Char
  | '0' :: 'x' :: '_' :: rest => rest
  | '0' :: 'X' :: '_' :: rest => rest
  | '0' :: 'x' :: rest => rest
  | '0' :: 'X' :: rest => rest
  | text => text

/-- The most digits that a numeral in base ten may have. -/
def maxDigits : Nat := 4300

/-- A signed whole number. -/
def signed (negative : Bool) (magnitude : Nat) : Int :=
  if negative then -magnitude else magnitude

/-- Read a whole number in base ten. -/
def readInteger? (text : Text) : Option Int :=
  let (negative, digits) := splitSign (plainSpelling text)
  match digitRun? 10 digits with
  | some values =>
      if maxDigits < values.length then none else some (signed negative (valueOf 10 values))
  | none => none

/-- Read a whole number in base sixteen. -/
def readHexInteger? (text : Text) : Option Int :=
  let (negative, digits) := splitSign (plainSpelling text)
  (digitRun? 16 (dropHexMark digits)).map fun values => signed negative (valueOf 16 values)

/-- Whether a character is a digit of the first ten. -/
def isPlainDigit (character : Char) : Bool :=
  (digitValue? 10 character).isSome

/-- A text without its underscores, each of which must stand between two digits. -/
def dropUnderscores? (afterDigit : Bool) : List Char → Option (List Char)
  | [] => some []
  | '_' :: next :: rest =>
      if afterDigit && isPlainDigit next then dropUnderscores? false (next :: rest) else none
  | ['_'] => none
  | character :: rest => do
      let others ← dropUnderscores? (isPlainDigit character) rest
      return character :: others

/-- The digits at the start of a text and what follows them. -/
def splitDigits (text : List Char) : List Nat × List Char :=
  ((text.takeWhile isPlainDigit).filterMap (digitValue? 10), text.dropWhile isPlainDigit)

/-- The exponent that a whole text states: nothing at all, or a marked numeral. -/
def exponent? : List Char → Option Int
  | [] => some 0
  | mark :: rest =>
      if mark = 'e' || mark = 'E' then
        let (negative, digits) := splitSign rest
        let (values, others) := splitDigits digits
        if values.isEmpty || !others.isEmpty then none
        else some (signed negative (valueOf 10 values))
      else none

/-- Read an unsigned decimal numeral: digits with at most one point among them, then an exponent. -/
def decimal? (negative : Bool) (text : List Char) : Option Binary64 :=
  let (whole, rest) := splitDigits text
  let (fraction, rest) := match rest with
    | '.' :: afterPoint => splitDigits afterPoint
    | _ => ([], rest)
  if whole.isEmpty && fraction.isEmpty then none
  else (exponent? rest).map fun exponent =>
    Binary64.ofDecimal negative (valueOf 10 (whole ++ fraction)) (exponent - fraction.length)

/-- Read a number with an optional fraction and exponent, or the name of what is not a number or of
infinity, in any letter case. -/
def readDecimal? (text : Text) : Option Binary64 := do
  let spelling ← dropUnderscores? false (plainSpelling text)
  let (negative, magnitude) := splitSign spelling
  let word := String.ofList (magnitude.map Char.toLower)
  if word = "inf" || word = "infinity" then return .infinite negative
  if word = "nan" then return .nan
  decimal? negative magnitude

end TokenLens.Numeral
