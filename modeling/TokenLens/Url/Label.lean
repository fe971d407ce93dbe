import TokenLens.Hex
import TokenLens.Split
import TokenLens.Text.Case
import TokenLens.Url.LabelTable
import TokenLens.Url.Punycode

/-!
# Labels of host names

A host name is made of labels with full stops between them. On the wire a label consists of one to
sixty-three code points of ASCII. A label with other code points is prepared first: letters become
small, letters of other shapes become their plain forms, marks are put in order and joined with what
carries them. What is then still beyond ASCII is spelled in letters and digits behind the mark
`xn--`. A label with that mark is turned back only if it is exactly what its text would be spelled
as.
-/

namespace TokenLens.Label

/-! ## The tables -/

/-- The number of hexadecimal digits; a character that is no digit counts as zero. -/
def numberOf (digits : List Char) : Nat :=
  digits.foldl (fun number digit => number * 16 + (Hex.digitValue? digit).getD 0) 0

/-- The images that an entry of a table gives to one code point or to several. -/
def imagesOf (entry : List Char) : List (List Nat) :=
  match entry with
  | ['-'] => [[]]
  | _ =>
      match Split.atFirst '.' entry with
      | (_, []) => [(Split.atAll (· = '+') entry).map numberOf]
      | (first, last) =>
          let start := numberOf first
          (List.range (numberOf (last.drop 1) + 1 - start)).map fun step => [start + step]

/-- A line of a table: the number that it starts with, and the images from there on. -/
structure Row where
  first : Nat
  images : Array (List Nat)

/-- The row of a line. -/
def Row.ofLine (line : List Char) : Row :=
  let (first, entries) := Split.atFirst ' ' line
  ⟨numberOf first, ((Split.atAll (· = ' ') entries).flatMap imagesOf).toArray⟩

/-- The rows of a table. -/
def rowsOf (lines : String) : List Row :=
  (Split.atAll (· = '\n') lines.toList).map Row.ofLine

/-- The image of a code point in a table. -/
def image? (rows : List Row) (point : Nat) : Option (List Nat) :=
  rows.findSome? fun row => if row.first ≤ point then row.images[point - row.first]? else none

/-- The images of code points. -/
def imageRows : List Row :=
  rowsOf imageLines

/-- The pairs, each with the code point that it is. -/
def pairs : List ((Nat × Nat) × Nat) :=
  (rowsOf pairLines).flatMap fun row =>
    row.images.toList.zipIdx.filterMap fun (pair, step) =>
      match pair with
      | [left, right] => some ((left, right), row.first + step)
      | _ => none

/-! ## Syllables

The syllables of the Korean script stand in the order of their two or three parts, so they are taken
apart and put together by their numbers alone. -/

/-- The parts of a syllable. -/
def syllableParts (point : Nat) : List Nat :=
  let place := point - 0xAC00
  let start := [0x1100 + place / 588, 0x1161 + place % 588 / 28]
  if place % 28 = 0 then start else start ++ [0x11A7 + place % 28]

/-- Whether a code point is a syllable. -/
def isSyllable (point : Nat) : Bool :=
  0xAC00 ≤ point && point < 0xAC00 + 11172

/-- The syllable of a first and a second part, or of a syllable of two parts and a third. -/
def syllable? (left right : Nat) : Option Nat :=
  if 0x1100 ≤ left ∧ left < 0x1113 ∧ 0x1161 ≤ right ∧ right < 0x1176 then
    some (0xAC00 + (left - 0x1100) * 588 + (right - 0x1161) * 28)
  else if isSyllable left ∧ (left - 0xAC00) % 28 = 0 ∧ 0x11A7 < right ∧ right < 0x11C3 then
    some (left + (right - 0x11A7))
  else none

/-! ## Preparation -/

/-- What a code point becomes: its image, the parts of a syllable, or else its small form. -/
def apart (point : CodePoint) : List Nat :=
  if isSyllable point.toNat then syllableParts point.toNat
  else match image? imageRows point.toNat with
    | some image => image
    | none => (Text.lower [point]).map CodePoint.toNat

/-- The class of a mark; zero for what is no mark. -/
def markClass (point : Nat) : Nat :=
  match markClasses.find? fun (first, last, _) => first ≤ point && point ≤ last with
  | some (_, _, found) => found
  | none => 0

/-- A code point with the class that it has as a mark. -/
structure Classed where
  point : Nat
  rank : Nat

/-- Marks in the order of their classes with one more, behind those of its own class. -/
def insertMark (mark : Classed) : List Classed → List Classed
  | [] => [mark]
  | first :: rest =>
      if first.rank ≤ mark.rank then first :: insertMark mark rest else mark :: first :: rest

/-- Code points with the marks behind each other one in the order of their classes, after marks
that are in order already. -/
def orderMarks (marks : List Classed) : List Classed → List Classed
  | [] => marks
  | next :: rest =>
      if next.rank = 0 then marks ++ next :: orderMarks [] rest
      else orderMarks (insertMark next marks) rest

/-- The code point that a pair is. -/
def joined? (left right : Nat) : Option Nat :=
  match syllable? left right with
  | some syllable => some syllable
  | none => pairs.lookup (left, right)

/-- Code points with each mark joined with what carries it: what carries the next marks, the marks
behind it that could not be joined, and the class of the last of them. A mark is hidden by one of
its own class, and what is no mark is joined with its neighbour only. -/
def joinMarks (carrier : Nat) (marks : List Nat) (hidden : Nat) : List Classed → List Nat
  | [] => carrier :: marks
  | next :: rest =>
      if hidden ≠ 0 ∧ next.rank = 0 then carrier :: marks ++ joinMarks next.point [] 0 rest
      else if hidden ≠ 0 ∧ next.rank ≤ hidden then
        joinMarks carrier (marks ++ [next.point]) hidden rest
      else match joined? carrier next.point with
        | some whole => joinMarks whole marks hidden rest
        | none =>
            if next.rank = 0 then carrier :: marks ++ joinMarks next.point [] 0 rest
            else joinMarks carrier (marks ++ [next.point]) next.rank rest

/-- A label with all code points apart, in order, and joined again. -/
def folded (label : Text) : List Nat :=
  let classed := (label.flatMap apart).map fun point => Classed.mk point (markClass point)
  match orderMarks [] classed with
  | [] => []
  | first :: rest => joinMarks first.point [] 0 rest

/-- Whether a label is written in one direction: letters from the right to the left stand alone, at
both ends at least. -/
def hasOneDirection (points : List Nat) : Bool :=
  let isRightToLeft := Text.inRanges rightToLeftRanges
  !points.any isRightToLeft ||
    (!points.any (Text.inRanges leftToRightRanges) && points.head?.any isRightToLeft &&
      points.getLast?.any isRightToLeft)

/-- A label as it is compared; none if it holds what no label may hold. -/
def prepared? (label : Text) : Option (List Nat) :=
  let points := folded label
  if points.any (Text.inRanges forbiddenRanges) || !hasOneDirection points then none
  else some points

/-! ## Spelling -/

/-- Whether all code points are of ASCII. -/
def isBasic (points : List Nat) : Bool :=
  points.all (· < 0x80)

/-- A label that is not too long or empty. -/
def ofLength? (label : List Nat) : Option (List Nat) :=
  if label.length = 0 || 63 < label.length then none else some label

/-- The mark of a label that is spelled in letters and digits. -/
def spelledMark : List Nat :=
  [0x78, 0x6E, 0x2D, 0x2D]

/-- A label in ASCII; none if it is no label. -/
def ascii? (label : Text) : Option (List Nat) :=
  let points := label.map CodePoint.toNat
  if isBasic points then ofLength? points
  else do
    let prepared ← prepared? label
    if isBasic prepared then ofLength? prepared
    else if spelledMark.isPrefixOf prepared then none
    else ofLength? (spelledMark ++ Punycode.encode prepared)

/-- The text of a label in ASCII; none if it has the mark of a spelling and is none. -/
def text? (label : List Nat) : Option Text :=
  if spelledMark.isPrefixOf label then do
    let text := (← Punycode.decode? (label.drop spelledMark.length)).map CodePoint.ofNat
    let spelled ← ascii? text
    if Text.lower (label.map .ofNat) = spelled.map .ofNat then some text else none
  else some (label.map .ofNat)

/-! ## Host names -/

/-- Whether a code point stands between labels. -/
def isFullStop (point : CodePoint) : Bool :=
  [0x2E, 0x3002, 0xFF0E, 0xFF61].contains point.toNat

/-- The labels of a host name, and whether a full stop stands behind the last one. -/
def labelsOf (isMark : CodePoint → Bool) (name : Text) : List Text × Bool :=
  let labels := Split.atAll isMark name
  if labels.getLast? = some [] then (labels.dropLast, true) else (labels, false)

/-- Labels with full stops between them, and one behind them if asked for. -/
def join (labels : List Text) (isClosed : Bool) : Text :=
  List.intercalate "." labels ++ (if isClosed then "." else "")

/-- A host name in ASCII; none if it is no host name. One that is in ASCII already stays as it
is. -/
def asciiName? (name : Text) : Option Text :=
  if isBasic (name.map CodePoint.toNat) then
    let (labels, _) := labelsOf (· = .char '.') name
    if labels.all fun label => (ascii? label).isSome then some name else none
  else do
    let (labels, isClosed) := labelsOf isFullStop name
    return join ((← labels.mapM ascii?).map (·.map .ofNat)) isClosed

/-- The text of a host name in ASCII; none if one of its labels has none. -/
def nameText? (name : Text) : Option Text := do
  let (labels, isClosed) := labelsOf (· = .char '.') name
  return join (← labels.mapM fun label => text? (label.map CodePoint.toNat)) isClosed

end TokenLens.Label
