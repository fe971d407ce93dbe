import TokenLens.Json.Basic
import TokenLens.Hex
import TokenLens.Number.Numeral
import TokenLens.Text.Wide

/-!
# Reading documents

A reader of the strict format with three extra numbers: `NaN`, `Infinity` and `-Infinity`. Only
space, tab, line feed and carriage return separate tokens. Of two members with one key the last
counts. A whole number is exact; one of more than `Numeral.maxDigits` digits is refused with an
error of its own, and so is a document that is nested too deeply, where the first of these faults
from the left is reported. Two escapes that are the halves of a surrogate pair are one character; a
half that is escaped alone stays a half.

Each reader takes what is left of the text and returns a value with what is left after it. `fuel`
bounds the nesting of calls; twice the length of the text always suffices, since every second call
takes a code point. `levels` is how many lists and objects may still be opened inside each other.
-/

namespace TokenLens.Json

/-- Why a text is no document. -/
inductive ReadError where
  | malformed
  | integerTooLong
  | tooDeep
deriving DecidableEq, Repr

/-- Whether a code point may stand between tokens. -/
def isSpace (point : CodePoint) : Bool :=
  point = .char ' ' || point = .char '\t' || point = .char '\n' || point = .char '\r'

/-- What is left after the spaces in front. -/
def skipSpaces (text : Text) : Text :=
  text.dropWhile isSpace

/-- The sixteen-bit unit that four hexadecimal digits stand for. -/
def unit? (digits : Text) : Option Nat := do
  let values ← digits.mapM fun digit => digit.char?.bind Hex.digitValue?
  return Numeral.valueOf 16 values

/-- What was passed once an open first half of a pair is known to stay alone. -/
def settle (half : Option Nat) (passed : Text) : Text :=
  match half with
  | some first => .ofNat first :: passed
  | none => passed

/-- Add a unit to what was passed: it completes a pair, opens one, or stands for itself. -/
def addUnit (half : Option Nat) (passed : Text) (unit : Nat) : Option Nat × Text :=
  match half, Wide.isSecondHalf unit, Wide.isFirstHalf unit with
  | some first, true, _ => (none, Wide.paired first unit :: passed)
  | _, _, true => (some unit, settle half passed)
  | _, _, false => (none, .ofNat unit :: settle half passed)

/-- The character that a letter stands for after a backslash. -/
def unescaped? : Char → Option Char
  | '"' => some '"'
  | '\\' => some '\\'
  | '/' => some '/'
  | 'b' => some '\x08'
  | 'f' => some '\x0c'
  | 'n' => some '\n'
  | 'r' => some '\r'
  | 't' => some '\t'
  | _ => none

/-- The content of a text up to its closing quotation mark, and the rest. `passed` was read before,
the last code point first, and `half` is the first half of a pair that may still be completed. -/
def readText? (half : Option Nat) (passed : Text) : Text → Option (Text × Text)
  | [] => none
  | .char '"' :: rest => some ((settle half passed).reverse, rest)
  | .char '\\' :: .char 'u' :: first :: second :: third :: fourth :: rest =>
      match unit? [first, second, third, fourth] with
      | some unit =>
          let (half, passed) := addUnit half passed unit
          readText? half passed rest
      | none => none
  | .char '\\' :: .char letter :: rest =>
      match unescaped? letter with
      | some character => readText? none (.char character :: settle half passed) rest
      | none => none
  | point :: rest =>
      if point.toNat < 0x20 || point = .char '\\' then none
      else readText? none (point :: settle half passed) rest

/-- The digits at the start of a text and what follows them. -/
def splitDigits (text : Text) : List Nat × Text :=
  let digits := text.takeWhile fun point => (point.char?).any Numeral.isPlainDigit
  (digits.filterMap fun digit => digit.char?.bind (Numeral.digitValue? 10), text.drop digits.length)

/-- The whole part of a number: a zero, or digits that do not start with one. -/
def readWhole? : Text → Option (List Nat × Text)
  | .char '0' :: rest => some ([0], rest)
  | text =>
      let (digits, rest) := splitDigits text
      if digits.isEmpty then none else some (digits, rest)

/-- The fraction of a number; without a digit after the point there is none. -/
def readFraction (text : Text) : List Nat × Text :=
  match text with
  | .char '.' :: afterPoint =>
      let (digits, rest) := splitDigits afterPoint
      if digits.isEmpty then ([], text) else (digits, rest)
  | _ => ([], text)

/-- A sign and what follows it. -/
def splitSign : Text → Bool × Text
  | .char '+' :: rest => (false, rest)
  | .char '-' :: rest => (true, rest)
  | text => (false, text)

/-- The exponent of a number; without a digit after the mark and sign there is none. -/
def readExponent (text : Text) : Option Int × Text :=
  match text with
  | mark :: afterMark =>
      if mark = .char 'e' || mark = .char 'E' then
        let (negative, afterSign) := splitSign afterMark
        let (digits, rest) := splitDigits afterSign
        if digits.isEmpty then (none, text)
        else (some (Numeral.signed negative (Numeral.valueOf 10 digits)), rest)
      else (none, text)
  | [] => (none, text)

/-- An unsigned number with the sign that stood before it. -/
def readNumber (negative : Bool) (text : Text) : Except ReadError (Json × Text) :=
  match readWhole? text with
  | none => .error .malformed
  | some (whole, afterWhole) =>
      let (fraction, afterFraction) := readFraction afterWhole
      let (exponent, rest) := readExponent afterFraction
      if fraction.isEmpty && exponent.isNone then
        if Numeral.maxDigits < whole.length then .error .integerTooLong
        else .ok (.int (Numeral.signed negative (Numeral.valueOf 10 whole)), rest)
      else
        .ok (.float (Binary64.ofDecimal negative (Numeral.valueOf 10 (whole ++ fraction))
          (exponent.getD 0 - fraction.length)), rest)

/-- What is left after a word in front. -/
def afterWord? : Text → Text → Option Text
  | [], text => some text
  | _ :: _, [] => none
  | letter :: letters, point :: rest => if letter = point then afterWord? letters rest else none

/-- The documents that are written as one word. -/
def wordValues : List (Text × Json) :=
  [("null", .null), ("true", .bool true), ("false", .bool false), ("NaN", .float .nan),
   ("Infinity", .float (.infinite false)), ("-Infinity", .float (.infinite true))]

/-- A document that is written as one word. -/
def readWord? (text : Text) : Option (Json × Text) :=
  wordValues.findSome? fun (word, value) => (afterWord? word text).map fun rest => (value, rest)

mutual

/-- A document in front of a text. -/
def readValue (fuel levels : Nat) (text : Text) : Except ReadError (Json × Text) :=
  match fuel with
  | 0 => .error .malformed
  | fuel + 1 =>
      match text with
      | .char '"' :: rest =>
          match readText? none [] rest with
          | some (content, others) => .ok (.str content, others)
          | none => .error .malformed
      | .char '[' :: rest =>
          match levels with
          | 0 => .error .tooDeep
          | levels + 1 =>
              match skipSpaces rest with
              | .char ']' :: others => .ok (.arr [], others)
              | others => readItems fuel levels [] others
      | .char '\x7b' :: rest =>
          match levels with
          | 0 => .error .tooDeep
          | levels + 1 =>
              match skipSpaces rest with
              | .char '\x7d' :: others => .ok (.obj [], others)
              | others => readMembers fuel levels [] others
      | text =>
          match readWord? text with
          | some (value, rest) => .ok (value, rest)
          | none =>
              match text with
              | .char '-' :: rest => readNumber true rest
              | rest => readNumber false rest
termination_by structural fuel

/-- The items of a list up to its closing bracket, after the items in `passed`. -/
def readItems (fuel levels : Nat) (passed : List Json) (text : Text) :
    Except ReadError (Json × Text) :=
  match fuel with
  | 0 => .error .malformed
  | fuel + 1 =>
      match readValue fuel levels text with
      | .error error => .error error
      | .ok (item, rest) =>
          match skipSpaces rest with
          | .char ',' :: others => readItems fuel levels (item :: passed) (skipSpaces others)
          | .char ']' :: others => .ok (.arr (item :: passed).reverse, others)
          | _ => .error .malformed
termination_by structural fuel

/-- The members of an object up to its closing brace, after the members in `passed`. -/
def readMembers (fuel levels : Nat) (passed : List (Text × Json)) (text : Text) :
    Except ReadError (Json × Text) :=
  match fuel with
  | 0 => .error .malformed
  | fuel + 1 =>
      match text with
      | .char '"' :: afterQuote =>
          match readText? none [] afterQuote with
          | none => .error .malformed
          | some (key, afterKey) =>
              match skipSpaces afterKey with
              | .char ':' :: afterColon =>
                  match readValue fuel levels (skipSpaces afterColon) with
                  | .error error => .error error
                  | .ok (value, rest) =>
                      match skipSpaces rest with
                      | .char ',' :: others =>
                          readMembers fuel levels ((key, value) :: passed) (skipSpaces others)
                      | .char '\x7d' :: others =>
                          .ok (.obj (Keyed.ofList ((key, value) :: passed).reverse), others)
                      | _ => .error .malformed
              | _ => .error .malformed
      | _ => .error .malformed
termination_by structural fuel

end

/-- The document that a whole text is, spaces around it left aside, with at most so many lists and
objects inside each other. -/
def readWithin (levels : Nat) (text : Text) : Except ReadError Json :=
  let points := skipSpaces text
  match readValue (2 * points.length + 2) levels points with
  | .error error => .error error
  | .ok (document, rest) =>
      if (skipSpaces rest).isEmpty then .ok document else .error .malformed

/-- How many lists and objects may stand inside each other. -/
def maxLevels : Nat := 980

/-- The document that a whole text is. -/
def read (text : Text) : Except ReadError Json :=
  readWithin maxLevels text

end TokenLens.Json
