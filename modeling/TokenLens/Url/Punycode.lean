import TokenLens.Split

/-!
# Labels in letters and digits

Code points beyond ASCII are spelled by the letters and digits of ASCII: the code points of ASCII
come first, then, after a hyphen, one number for each other code point. A number tells how many
positions are passed over, in the order of the code points and of the places where they could stand,
since the last one was put in. It has as many digits in base 36 as it needs, the lowest first; which
digits may end it depends on a bias, which follows the size of the numbers before.
-/

namespace TokenLens.Punycode

/-- The letter or digit of a value below 36. -/
def digit (value : Nat) : Nat :=
  if value < 26 then 0x61 + value else 0x30 + (value - 26)

/-- The value of a letter, in either case, or digit. -/
def digitValue? (point : Nat) : Option Nat :=
  if 0x61 ≤ point ∧ point ≤ 0x7A then some (point - 0x61)
  else if 0x41 ≤ point ∧ point ≤ 0x5A then some (point - 0x41)
  else if 0x30 ≤ point ∧ point ≤ 0x39 then some (point - 0x30 + 26)
  else none

/-- The least value of a digit that another one follows, at a position counted in steps of 36. -/
def threshold (position bias : Nat) : Nat :=
  min 26 (max 1 (position - bias))

/-- A threshold lies between one and twenty-six. -/
theorem threshold_bounds (position bias : Nat) :
    1 ≤ threshold position bias ∧ threshold position bias ≤ 26 := by
  unfold threshold
  omega

/-- How often a number above 455 can be divided by 35, and what is left. -/
def scaleDown (number : Nat) : Nat × Nat :=
  if 455 < number then
    let (divisions, rest) := scaleDown (number / 35)
    (divisions + 1, rest)
  else (0, number)
termination_by number
decreasing_by exact Nat.div_lt_self (by omega) (by omega)

/-- The bias after a number, with how many code points there are by then. -/
def adapt (number count : Nat) (isFirst : Bool) : Nat :=
  let damped := if isFirst then number / 700 else number / 2
  let (divisions, rest) := scaleDown (damped + damped / count)
  36 * divisions + 36 * rest / (rest + 38)

/-- The digits of a number from a position on. -/
def writeNumber (bias position number : Nat) : List Nat :=
  let least := threshold position bias
  if number < least then [digit number]
  else
    digit (least + (number - least) % (36 - least)) ::
      writeNumber bias (position + 36) ((number - least) / (36 - least))
termination_by number
decreasing_by
  have bounds := threshold_bounds position bias
  calc (number - threshold position bias) / (36 - threshold position bias)
      ≤ number - threshold position bias := Nat.div_le_self _ _
    _ < number := by omega

/-- What is carried along while code points are spelled: what was written, in order, how many
positions were passed over since the last number, the bias, and how many code points are put in. -/
structure Writer where
  written : List Nat
  passed : Nat
  bias : Nat
  count : Nat

/-- A writer after one point of the label, when the points with the value of `current` are due. The
number of points of ASCII tells which number is the first. -/
def Writer.visit (basicCount current : Nat) (writer : Writer) (point : Nat) : Writer :=
  if point < current then { writer with passed := writer.passed + 1 }
  else if point = current then
    ⟨writer.written ++ writeNumber writer.bias 36 writer.passed, 0,
     adapt writer.passed (writer.count + 1) (writer.count = basicCount), writer.count + 1⟩
  else writer

/-- A writer after all points of the label that have one of the values still due, in their order.
Everything below `reached` is put in. -/
def Writer.visitAll (label : List Nat) (basicCount reached : Nat) (writer : Writer) :
    List Nat → Writer
  | [] => writer
  | current :: later =>
      let arrived :=
        { writer with passed := writer.passed + (current - reached) * (writer.count + 1) }
      let visited := label.foldl (Writer.visit basicCount current) arrived
      visitAll label basicCount (current + 1) { visited with passed := visited.passed + 1 } later

/-- A list of numbers with one more, in ascending order and without repetition. -/
def insertValue (value : Nat) : List Nat → List Nat
  | [] => [value]
  | first :: rest =>
      if value < first then value :: first :: rest
      else if value = first then first :: rest
      else first :: insertValue value rest

/-- The spelling of a label. -/
def encode (label : List Nat) : List Nat :=
  let basic := label.filter (· < 0x80)
  let due := (label.filter (0x80 ≤ ·)).foldl (fun values value => insertValue value values) []
  let written :=
    (Writer.visitAll label basic.length 0x80 ⟨[], 0, 72, basic.length⟩ due).written
  (if basic.isEmpty then [] else basic ++ [0x2D]) ++ written

/-- A number at a position, with what follows it; none if it does not end or holds another point
than a letter or digit. The weight is what one unit of the next digit counts. -/
def readNumber? (bias position weight : Nat) : List Nat → Option (Nat × List Nat)
  | [] => none
  | point :: rest =>
      match digitValue? point with
      | none => none
      | some value =>
          if value < threshold position bias then some (value * weight, rest)
          else
            (readNumber? bias (position + 36) (weight * (36 - threshold position bias)) rest).map
              fun (number, others) => (value * weight + number, others)

/-- What follows a number is shorter than what it was read from. -/
theorem readNumber?_length {bias position weight : Nat} {points : List Nat}
    {found : Nat × List Nat} (read : readNumber? bias position weight points = some found) :
    found.2.length < points.length := by
  induction points generalizing position weight found with
  | nil => simp [readNumber?] at read
  | cons point rest inductionHypothesis =>
      rw [readNumber?] at read
      split at read
      · simp at read
      · split at read
        · rw [← Option.some.inj read]
          simp
        · obtain ⟨inner, innerRead, rfl⟩ := Option.map_eq_some_iff.1 read
          have shorter := inductionHypothesis innerRead
          simp only [List.length_cons]
          omega

/-- The code points of a label with more to put in: those that are there, the value and the place
that were reached, and the bias. -/
def insertAll? (label : List Nat) (value place bias : Nat) (isFirst : Bool) (points : List Nat) :
    Option (List Nat) :=
  match points with
  | [] => some label
  | point :: rest =>
      match read : readNumber? bias 36 1 (point :: rest) with
      | none => none
      | some (number, others) =>
          let count := label.length + 1
          let reached := value + (place + number) / count
          if 0x10FFFF < reached then none
          else
            let there := (place + number) % count
            insertAll? (label.insertIdx there reached) reached (there + 1)
              (adapt number count isFirst) false others
termination_by points.length
decreasing_by
  have shorter := readNumber?_length read
  simpa using shorter

/-- The label of a spelling, none if it is the spelling of no label. -/
def decode? (spelling : List Nat) : Option (List Nat) :=
  let (basic, points) := Split.atLast 0x2D spelling
  insertAll? basic 0x80 0 72 true points

end TokenLens.Punycode
