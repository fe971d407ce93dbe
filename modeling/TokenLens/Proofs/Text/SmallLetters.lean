import TokenLens.Number.Numeral
import TokenLens.Text.Case

/-!
# Texts that are their own small form

A code point is *settled* when it is its own small form wherever it stands. Every code point of
ASCII that is no capital is settled, and so is every blank and every decimal digit beyond ASCII. No
small form has a capital of ASCII in it, so what numerals are made of is settled once a text was
put in small letters. A text of ASCII without capitals comes back from its capital form
(`lower_upper`).
-/

namespace TokenLens.Text

/-- A code point that is its own small form wherever it stands. -/
def IsSettled (point : CodePoint) : Prop :=
  ∀ before after, lowerPointBetween before point after = [point]

/-- A code point that is one of the twenty-six capital letters of ASCII. -/
def IsCapital (point : CodePoint) : Prop :=
  65 ≤ point.toNat ∧ point.toNat ≤ 90

/-- A text of settled code points is its own small form. -/
theorem lower_eq_self {text : Text} (settled : ∀ point ∈ text, IsSettled point) :
    lower text = text := by
  suffices fromAnywhere : ∀ before, lowerFrom before text = text from fromAnywhere []
  induction text with
  | nil => intro before; rfl
  | cons point rest inductionHypothesis =>
      intro before
      obtain ⟨here, after⟩ := List.forall_mem_cons.1 settled
      rw [lowerFrom, here before rest, inductionHypothesis after]
      rfl

/-- What is no capital of ASCII is settled in ASCII. -/
theorem isSettled_of_ascii {point : CodePoint} (isAscii : point.toNat < 0x80)
    (noCapital : ¬IsCapital point) : IsSettled point := by
  intro before after
  rw [IsCapital] at noCapital
  rw [lowerPointBetween, if_pos isAscii, if_neg noCapital]

/-- A code point beyond ASCII outside of all tables is settled. -/
theorem isSettled_of_unmapped {point : CodePoint} (beyond : 0x80 ≤ point.toNat)
    (notSigma : point.toNat ≠ 0x3A3) (unexpanded : lowerExpansions.lookup point.toNat = none)
    (unmapped : ∀ run ∈ lowerRuns, run.holds point.toNat = false) : IsSettled point := by
  intro before after
  have noRun : lowerRuns.find? (·.holds point.toNat) = none := by
    simpa [List.find?_eq_none] using unmapped
  rw [lowerPointBetween, if_neg (Nat.not_lt.2 beyond), if_neg notSigma, unexpanded]
  simp only [mapByRuns, noRun]

/-- The ranges of blanks and decimal digits. -/
def numeralRanges : List (Nat × Nat) :=
  whiteSpaceRanges ++ decimalDigitRanges

/-- No run of mapped code points meets a range of blanks or decimal digits. -/
theorem numeralRanges_unmapped :
    ∀ range ∈ numeralRanges, ∀ run ∈ lowerRuns, range.2 < run.first ∨ run.last < range.1 := by
  -- The tables are long, so they are compared by a test and not by deciding the statement itself.
  have apart : numeralRanges.all (fun range => lowerRuns.all fun run =>
      range.2.blt run.first || run.last.blt range.1) = true := by decide +kernel
  intro range isRange run isRun
  have isApart := List.all_eq_true.1 (List.all_eq_true.1 apart range isRange) run isRun
  simpa [Nat.blt_eq] using isApart

/-- Neither the sigma nor a code point with a longer small form is a blank or a decimal digit. -/
theorem numeralRanges_unexpanded :
    ∀ range ∈ numeralRanges, ∀ special ∈ 0x3A3 :: lowerExpansions.map Prod.fst,
      range.2 < special ∨ special < range.1 := by
  decide +kernel

/-- Blanks and decimal digits beyond ASCII are settled. -/
theorem isSettled_of_inRanges {point : CodePoint} (beyond : 0x80 ≤ point.toNat)
    (inNumerals : inRanges numeralRanges point.toNat = true) : IsSettled point := by
  obtain ⟨range, isRange, within⟩ := List.any_eq_true.1 inNumerals
  simp only [Bool.and_eq_true, decide_eq_true_eq] at within
  have apart : ∀ special ∈ 0x3A3 :: lowerExpansions.map Prod.fst, point.toNat ≠ special := by
    intro special isSpecial
    have outside := numeralRanges_unexpanded range isRange special isSpecial
    omega
  obtain ⟨notSigma, unexpanded⟩ := List.forall_mem_cons.1 apart
  refine isSettled_of_unmapped beyond notSigma ?_ ?_
  · refine List.lookup_eq_none_iff.2 fun entry isEntry => ?_
    simpa using unexpanded entry.1 (List.mem_map_of_mem isEntry)
  · intro run isRun
    have outside := numeralRanges_unmapped range isRange run isRun
    simp only [CaseRun.holds, Bool.and_eq_false_iff, decide_eq_false_iff_not]
    omega

/-- The small form of a code point of ASCII. -/
def smallPoint (point : CodePoint) : CodePoint :=
  if 65 ≤ point.toNat ∧ point.toNat ≤ 90 then .ofNat (point.toNat + 32) else point

/-- A text of ASCII is put in small letters point by point. -/
theorem lower_of_ascii {text : Text} (isAscii : ∀ point ∈ text, point.toNat < 0x80) :
    lower text = text.map smallPoint := by
  suffices fromAnywhere : ∀ before, lowerFrom before text = text.map smallPoint from fromAnywhere []
  induction text with
  | nil => intro before; rfl
  | cons point rest inductionHypothesis =>
      intro before
      obtain ⟨here, later⟩ := List.forall_mem_cons.1 isAscii
      rw [lowerFrom, lowerPointBetween, if_pos here, inductionHypothesis later]
      rfl

/-! ## Small forms hold no capitals -/

/-- The character of a number has that number, or is the null character in place of none. -/
theorem toNat_charOfNat (number : Nat) :
    (Char.ofNat number).toNat = number ∨ (Char.ofNat number).toNat = 0 := by
  by_cases valid : number.isValidChar
  · left
    rw [Char.ofNat, dif_pos valid]
    rfl
  · right
    rw [Char.ofNat, dif_neg valid]
    rfl

/-- The code point of a number beyond the capitals is none of them. -/
theorem not_isCapital_ofNat {number : Nat} (beyond : 90 < number) :
    ¬IsCapital (.ofNat number) := by
  rw [IsCapital, CodePoint.ofNat]
  split
  · simp only [CodePoint.toNat]
    omega
  · rw [CodePoint.toNat]
    rcases toNat_charOfNat number with same | isZero
    · omega
    · omega

/-- Every run of mapped code points maps beyond the capitals. -/
theorem lowerRuns_beyond : ∀ run ∈ lowerRuns, 90 < (run.first : Int) + run.distance := by
  decide +kernel

/-- Every longer small form lies beyond the capitals. -/
theorem lowerExpansions_beyond :
    ∀ entry ∈ lowerExpansions, ∀ number ∈ entry.2, 90 < number := by
  decide +kernel

/-- The image of a code point beyond ASCII under the runs is no capital of ASCII. -/
theorem not_isCapital_mapByRuns {point : CodePoint} (beyond : 0x80 ≤ point.toNat) :
    ¬IsCapital (mapByRuns lowerRuns point) := by
  rw [mapByRuns]
  split
  next run isFound =>
    have isRun : run ∈ lowerRuns := List.mem_of_find?_eq_some isFound
    have holds : run.holds point.toNat = true := by simpa using List.find?_some isFound
    have farEnough := lowerRuns_beyond run isRun
    simp only [CaseRun.holds, Bool.and_eq_true, decide_eq_true_eq] at holds
    exact not_isCapital_ofNat (by omega)
  next =>
    rw [IsCapital]
    omega

/-- The small form of a code point holds no capital of ASCII. -/
theorem not_isCapital_of_mem_lowerPointBetween {before after : Text} {point small : CodePoint}
    (isPart : small ∈ lowerPointBetween before point after) : ¬IsCapital small := by
  rw [lowerPointBetween] at isPart
  split at isPart
  next isAscii =>
    rw [List.mem_singleton.1 isPart]
    split
    next => exact not_isCapital_ofNat (by omega)
    next noCapital => exact noCapital
  next beyond =>
    split at isPart
    next =>
      rw [List.mem_singleton.1 isPart]
      split <;> exact not_isCapital_ofNat (by omega)
    next =>
      split at isPart
      next numbers isExpanded =>
        obtain ⟨number, isNumber, rfl⟩ := List.mem_map.1 isPart
        have isEntry : (point.toNat, numbers) ∈ lowerExpansions := by
          obtain ⟨before, after, cut, -⟩ := List.lookup_eq_some_iff.1 isExpanded
          simp [cut]
        exact not_isCapital_ofNat (lowerExpansions_beyond _ isEntry number isNumber)
      next =>
        rw [List.mem_singleton.1 isPart]
        exact not_isCapital_mapByRuns (Nat.not_lt.1 beyond)

/-- A text in small letters holds no capital of ASCII. -/
theorem not_isCapital_of_mem_lower {text : Text} {point : CodePoint} (isPart : point ∈ lower text) :
    ¬IsCapital point := by
  suffices fromAnywhere : ∀ before, point ∈ lowerFrom before text → ¬IsCapital point from
    fromAnywhere [] isPart
  clear isPart
  induction text with
  | nil => intro before isPart; cases isPart
  | cons first rest inductionHypothesis =>
      intro before isPart
      rcases List.mem_append.1 isPart with isHere | isLater
      · exact not_isCapital_of_mem_lowerPointBetween isHere
      · exact inductionHypothesis _ isLater

/-! ## Small forms of capital forms -/

/-- A code point of ASCII that is no capital. -/
def IsPlain (point : CodePoint) : Prop :=
  point.toNat < 0x80 ∧ ¬IsCapital point

/-- The code point of a number in ASCII has that number. -/
theorem toNat_ofNat_of_ascii {number : Nat} (isAscii : number < 0x80) :
    (CodePoint.ofNat number).toNat = number := by
  have valid : number.isValidChar := .inl (by omega)
  rw [CodePoint.ofNat, if_neg (by omega), CodePoint.toNat, Char.ofNat, dif_pos valid]
  rfl

/-- A plain code point is the small form of its capital form, wherever that stands. -/
theorem lowerPointBetween_upperPoint {point : CodePoint} (plain : IsPlain point) :
    ∃ capital, upperPoint point = [capital] ∧
      ∀ before after, lowerPointBetween before capital after = [point] := by
  obtain ⟨isAscii, noCapital⟩ := plain
  rw [upperPoint, if_pos isAscii]
  refine ⟨_, rfl, fun before after => ?_⟩
  by_cases isSmall : 97 ≤ point.toNat ∧ point.toNat ≤ 122
  · have number : (CodePoint.ofNat (point.toNat - 32)).toNat = point.toNat - 32 :=
      toNat_ofNat_of_ascii (by omega)
    have back : CodePoint.ofNat (point.toNat - 32 + 32) = point := by
      refine CodePoint.eq_of_toNat_eq ?_
      rw [Nat.sub_add_cancel (by omega), toNat_ofNat_of_ascii isAscii]
    rw [if_pos isSmall, lowerPointBetween, number, if_pos (by omega), if_pos (by omega), back]
  · rw [if_neg isSmall]
    exact isSettled_of_ascii isAscii noCapital before after

/-- A plain text is the small form of its capital form. -/
theorem lower_upper {text : Text} (plain : ∀ point ∈ text, IsPlain point) :
    lower (upper text) = text := by
  suffices fromAnywhere : ∀ before, lowerFrom before (upper text) = text from fromAnywhere []
  induction text with
  | nil => intro before; rfl
  | cons point rest inductionHypothesis =>
      intro before
      obtain ⟨here, later⟩ := List.forall_mem_cons.1 plain
      obtain ⟨capital, isUpper, lowered⟩ := lowerPointBetween_upperPoint here
      have split : upper (point :: rest) = capital :: upper rest := by
        rw [upper, List.flatMap_cons, isUpper]
        rfl
      rw [split, lowerFrom, lowered, inductionHypothesis later]
      rfl

/-- A plain text is its own small form. -/
theorem lower_of_plain {text : Text} (plain : ∀ point ∈ text, IsPlain point) : lower text = text :=
  lower_eq_self fun point isPart => isSettled_of_ascii (plain point isPart).1 (plain point isPart).2

end TokenLens.Text
