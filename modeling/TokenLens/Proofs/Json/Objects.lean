import TokenLens.Proofs.Json.Texts

/-!
# Written objects are read back

Objects whose members are texts, counts or null are read back member by member; their texts have
halves joined. Nothing else is lost on the way.
-/

namespace TokenLens.Json

open TokenLens.Text

/-- A text, a count that is not too long to be read, or null. -/
inductive IsScalar : Json → Prop
  | null : IsScalar .null
  | count (number : Nat) (short : number < 10 ^ Numeral.maxDigits) : IsScalar (.int number)
  | text (text : Text) : IsScalar (.str text)

/-- A text, a count or null as it is read back. -/
def joined : Json → Json
  | .str text => .str (Text.joinHalves text)
  | document => document

/-- A text is read back with its halves joined. -/
@[simp]
theorem joined_str (text : Text) : (Json.str text).joined = .str (Text.joinHalves text) := rfl

/-- A count is read back as it is. -/
@[simp]
theorem joined_int (number : Int) : (Json.int number).joined = .int number := rfl

/-- What ends a member of an object: a comma or the closing brace. -/
def EndsMember (rest : Text) : Prop :=
  ∃ others, rest = .char ',' :: others ∨ rest = .char '\x7d' :: others

section Numbers

variable {values : List Nat} {rest : Text}

/-- A decimal digit is read as its value. -/
theorem isPlainDigit_digit : ∀ value < 10,
    Numeral.isPlainDigit (Hex.digit value) = true ∧
      Numeral.digitValue? 10 (Hex.digit value) = some value := by
  decide

/-- The digits of a count end where the member ends. -/
theorem splitDigits_digits (small : ∀ value ∈ values, value < 10) (ends : EndsMember rest) :
    splitDigits (ofChars (values.map Hex.digit) ++ rest) = (values, rest) := by
  have areDigits : ∀ point ∈ ofChars (values.map Hex.digit),
      (point.char?).any Numeral.isPlainDigit = true := by
    intro point isPoint
    obtain ⟨character, isCharacter, rfl⟩ := List.mem_map.1 isPoint
    obtain ⟨value, isValue, rfl⟩ := List.mem_map.1 isCharacter
    exact (isPlainDigit_digit value (small value isValue)).1
  have stops : rest.takeWhile (fun point => (point.char?).any Numeral.isPlainDigit) = [] := by
    obtain ⟨others, rfl | rfl⟩ := ends
    · rfl
    · rfl
  have taken : (ofChars (values.map Hex.digit) ++ rest).takeWhile
      (fun point => (point.char?).any Numeral.isPlainDigit) = ofChars (values.map Hex.digit) := by
    rw [List.takeWhile_append_of_pos areDigits, stops, List.append_nil]
  have readBack : (ofChars (values.map Hex.digit)).filterMap
      (fun digit => digit.char?.bind (Numeral.digitValue? 10)) = values := by
    rw [ofChars, List.map_map, List.filterMap_map]
    refine (List.filterMap_congr fun value isValue => ?_).trans List.filterMap_some
    exact (isPlainDigit_digit value (small value isValue)).2
  simp only [splitDigits, taken, List.drop_left, readBack]

/-- The digits of a count are the whole part of a number. -/
theorem readWhole?_digits {number : Nat} (writes : Numeral.Writes 10 number values)
    (ends : EndsMember rest) :
    readWhole? (ofChars (values.map Hex.digit) ++ rest) = some (values, rest) := by
  have split := splitDigits_digits writes.small ends
  obtain ⟨first, others, rfl⟩ := writes.exists_cons
  cases first with
  | zero =>
      obtain rfl : others = [] := (List.cons.inj (writes.first rfl)).2
      rfl
  | succ first =>
      have notZero : Hex.digit (first + 1) ≠ '0' := fun isZero =>
        absurd ((Hex.digit_eq_zero_iff
          (Nat.lt_trans (writes.small _ List.mem_cons_self) (by decide))).1 isZero) (by omega)
      change readWhole? (.char (Hex.digit (first + 1)) ::
        (ofChars (others.map Hex.digit) ++ rest)) = _
      change splitDigits (.char (Hex.digit (first + 1)) ::
        (ofChars (others.map Hex.digit) ++ rest)) = _ at split
      rw [readWhole?.eq_2 _ (by simpa using notZero)]
      simp only [split]
      rfl

/-- A count is read back. -/
theorem readNumber_digits {number : Nat} (writes : Numeral.Writes 10 number values)
    (short : number < 10 ^ Numeral.maxDigits) (ends : EndsMember rest) :
    readNumber false (ofChars (values.map Hex.digit) ++ rest) = .ok (.int number, rest) := by
  have noFraction : readFraction rest = ([], rest) := by
    obtain ⟨others, rfl | rfl⟩ := ends
    · rfl
    · rfl
  have noExponent : readExponent rest = (none, rest) := by
    obtain ⟨others, rfl | rfl⟩ := ends
    · rfl
    · rfl
  have fits : values.length ≤ Numeral.maxDigits := by
    have few := (Nat.length_toDigits_le_iff (by decide) (by decide)).2 short
    rwa [writes.digits, List.length_map] at few
  rw [readNumber, readWhole?_digits writes ends]
  simp only [noFraction, noExponent, List.isEmpty_nil, Option.isNone_none, Bool.and_self, if_true,
    if_neg (Nat.not_lt.2 fits), writes.value]
  rfl

end Numbers

/-- No word starts with a digit. -/
theorem readWord?_digit {value : Nat} (small : value < 10) (rest : Text) :
    readWord? (.char (Hex.digit value) :: rest) = none := by
  have noDigit : ∀ value < 10, ∀ word ∈ wordValues,
      ∃ letter ∈ word.1.head?, letter ≠ .char (Hex.digit value) := by
    decide
  refine List.findSome?_eq_none_iff.2 fun word isWord => ?_
  obtain ⟨letter, isFirst, differs⟩ := noDigit value small word isWord
  change (afterWord? word.1 _).map _ = none
  obtain ⟨letters, begins⟩ := List.head?_eq_some_iff.1 isFirst
  rw [begins, afterWord?, if_neg differs]
  rfl

/-- What starts with a digit is a number. -/
theorem readValue_digit {value : Nat} (small : value < 10) (fuel levels : Nat) (rest : Text) :
    readValue (fuel + 1) levels (.char (Hex.digit value) :: rest) =
      readNumber false (.char (Hex.digit value) :: rest) := by
  have noMark : ∀ value < 10, Hex.digit value ∉ ['"', '[', '\x7b', '-'] := by decide
  have isOther := noMark value small
  simp only [List.mem_cons, List.not_mem_nil, or_false, not_or] at isOther
  obtain ⟨noText, noList, noObject, noSign⟩ := isOther
  rw [readValue.eq_8 _ _ _ (by simp [noText]) (by simp [noList]) (by simp [noObject])
    (by simp [noSign]), readWord?_digit small]

/-- A count is written with the digits of its value. -/
theorem writeChars_count {number : Nat} {values : List Nat}
    (writes : Numeral.Writes 10 number values) :
    writeChars .compact (.int number) = values.map Hex.digit := by
  rw [← writes.digits, writeChars]
  exact Nat.toList_repr

/-- A scalar in front of what ends a member is read back. -/
theorem readValue_scalar {document : Json} (isScalar : document.IsScalar) (fuel levels : Nat)
    {rest : Text} (ends : EndsMember rest) :
    readValue (fuel + 1) levels (ofChars (writeChars .compact document) ++ rest) =
      .ok (document.joined, rest) := by
  cases isScalar with
  | null => rfl
  | text text =>
      have written : ofChars (writeChars .compact (.str text)) ++ rest =
          .char '"' :: (ofChars (text.flatMap escapePoint) ++ .char '"' :: rest) := by
        simp [writeChars, writeText, ofChars]
      rw [written, readValue, readText?_writeText]
      rfl
  | count number short =>
      obtain ⟨values, writes⟩ := Numeral.exists_writes (by decide) (by decide : 10 ≤ 16) number
      rw [writeChars_count writes]
      obtain ⟨value, others, rfl⟩ := writes.exists_cons
      exact (readValue_digit (writes.small _ List.mem_cons_self) fuel levels _).trans
        (readNumber_digits writes short ends)

/-- No space stands in front of a written scalar. -/
theorem skipSpaces_scalar {document : Json} (isScalar : document.IsScalar) (rest : Text) :
    skipSpaces (ofChars (writeChars .compact document) ++ rest) =
      ofChars (writeChars .compact document) ++ rest := by
  cases isScalar with
  | null => rfl
  | text text => rfl
  | count number short =>
      obtain ⟨values, writes⟩ := Numeral.exists_writes (by decide) (by decide : 10 ≤ 16) number
      rw [writeChars_count writes]
      obtain ⟨value, others, rfl⟩ := writes.exists_cons
      have noSpace : ∀ value < 10, isSpace (.char (Hex.digit value)) = false := by decide
      have here := noSpace value (writes.small _ List.mem_cons_self)
      exact List.dropWhile_cons_of_neg (by simp [here])

/-- A member as it is read back. -/
def joinedMember (member : Text × Json) : Text × Json :=
  (Text.joinHalves member.1, member.2.joined)

/-- A member that is a scalar is read back, and what follows it tells how to go on. -/
theorem readMembers_member (key : Text) {value : Json} (isScalar : value.IsScalar)
    (fuel levels : Nat) (passed : List (Text × Json)) (others : Text) :
    let written := ofChars (writeText key ++ ':' :: writeChars .compact value)
    readMembers (fuel + 2) levels passed (written ++ .char ',' :: others) =
        readMembers (fuel + 1) levels (joinedMember (key, value) :: passed) (skipSpaces others) ∧
      readMembers (fuel + 2) levels passed (written ++ .char '\x7d' :: others) =
        .ok (.obj (Keyed.ofList (joinedMember (key, value) :: passed).reverse), others) := by
  intro written
  have isWritten (rest : Text) : written ++ rest =
      .char '"' :: (ofChars (key.flatMap escapePoint) ++ .char '"' :: .char ':' ::
        (ofChars (writeChars .compact value) ++ rest)) := by
    simp [written, writeText, ofChars]
  have noSpace (rest : Text) : skipSpaces (.char ':' :: rest) = .char ':' :: rest := rfl
  constructor
  · rw [isWritten, readMembers.eq_2, readText?_writeText]
    simp only [noSpace, skipSpaces_scalar isScalar,
      readValue_scalar isScalar fuel levels ⟨others, .inl rfl⟩]
    rfl
  · rw [isWritten, readMembers.eq_2, readText?_writeText]
    simp only [noSpace, skipSpaces_scalar isScalar,
      readValue_scalar isScalar fuel levels ⟨others, .inr rfl⟩]
    rfl

/-- Written members start with a quotation mark. -/
theorem exists_writeMembers {members : List (Text × Json)} (someMember : members ≠ []) :
    ∃ rest, writeMembers .compact members = '"' :: rest := by
  match members with
  | [] => exact absurd rfl someMember
  | [(key, value)] => exact ⟨_, rfl⟩
  | (key, value) :: next :: others => exact ⟨_, rfl⟩

/-- No space stands in front of written members. -/
theorem skipSpaces_members {members : List (Text × Json)} (someMember : members ≠ [])
    (rest : Text) : skipSpaces (ofChars (writeMembers .compact members) ++ rest) =
      ofChars (writeMembers .compact members) ++ rest := by
  obtain ⟨others, begins⟩ := exists_writeMembers someMember
  rw [begins]
  rfl

/-- Members that are scalars are read back in order. -/
theorem readMembers_scalars {members : List (Text × Json)} (someMember : members ≠ [])
    (areScalars : ∀ member ∈ members, member.2.IsScalar) {fuel : Nat} (levels : Nat)
    (passed : List (Text × Json)) (enough : members.length < fuel) (rest : Text) :
    readMembers fuel levels passed
        (ofChars (writeMembers .compact members) ++ .char '\x7d' :: rest) =
      .ok (.obj (Keyed.ofList (passed.reverse ++ members.map joinedMember)), rest) := by
  induction members generalizing fuel passed with
  | nil => exact absurd rfl someMember
  | cons member others inductionHypothesis =>
      obtain ⟨key, value⟩ := member
      obtain ⟨isScalar, areOthers⟩ := List.forall_mem_cons.1 areScalars
      rw [List.length_cons] at enough
      obtain ⟨fuel, rfl⟩ : ∃ more, fuel = more + 2 := ⟨fuel - 2, by omega⟩
      cases others with
      | nil =>
          have written : writeMembers .compact [(key, value)] =
              writeText key ++ ':' :: writeChars .compact value := by
            rw [writeMembers]
            rfl
          rw [written, (readMembers_member key isScalar fuel levels passed rest).2]
          simp
      | cons next others =>
          have written : ofChars (writeMembers .compact ((key, value) :: next :: others)) ++
                .char '\x7d' :: rest =
              ofChars (writeText key ++ ':' :: writeChars .compact value) ++ .char ',' ::
                (ofChars (writeMembers .compact (next :: others)) ++ .char '\x7d' :: rest) := by
            simp [writeMembers, ofChars, Spacing.compact]
          rw [written, (readMembers_member key isScalar fuel levels passed _).1,
            skipSpaces_members (by simp), inductionHypothesis (by simp) areOthers _ (by omega)]
          simp

/-- Every written member takes a character and more. -/
theorem length_le_writeMembers (members : List (Text × Json)) :
    members.length ≤ (writeMembers .compact members).length := by
  match members with
  | [] => simp
  | [(key, value)] =>
      rw [writeMembers]
      simp [writeText]
  | (key, value) :: next :: others =>
      have later := length_le_writeMembers (next :: others)
      rw [writeMembers]
      simp only [List.length_append, List.length_cons, writeText] at later ⊢
      omega

/-- Behind an opening brace written members are read. -/
theorem readValue_object {members : List (Text × Json)} (someMember : members ≠ [])
    (fuel levels : Nat) (rest : Text) :
    readValue (fuel + 1) (levels + 1)
        (.char '\x7b' :: (ofChars (writeMembers .compact members) ++ rest)) =
      readMembers fuel levels [] (ofChars (writeMembers .compact members) ++ rest) := by
  rw [readValue.eq_6, skipSpaces_members someMember]
  obtain ⟨others, begins⟩ := exists_writeMembers someMember
  rw [begins]
  rfl

/-- An object whose members are scalars is read back. -/
theorem read_object {members : List (Text × Json)} (someMember : members ≠ [])
    (areScalars : ∀ member ∈ members, member.2.IsScalar) :
    read (ofChars (writeChars .compact (.obj members))) =
      .ok (.obj (Keyed.ofList (members.map joinedMember))) := by
  have written : ofChars (writeChars .compact (.obj members)) =
      .char '\x7b' :: (ofChars (writeMembers .compact members) ++ [.char '\x7d']) := by
    simp [writeChars, ofChars]
  have noSpace (rest : Text) : skipSpaces (.char '\x7b' :: rest) = .char '\x7b' :: rest := rfl
  have length : (CodePoint.char '\x7b' ::
      (ofChars (writeMembers .compact members) ++ [.char '\x7d'])).length =
        (writeMembers .compact members).length + 2 := by
    simp [ofChars]
  have enough : members.length < 2 * ((writeMembers .compact members).length + 2) + 1 := by
    have long := length_le_writeMembers members
    omega
  have opened : readValue (2 * ((writeMembers .compact members).length + 2) + 2) maxLevels
      (.char '\x7b' :: (ofChars (writeMembers .compact members) ++ [.char '\x7d'])) =
        .ok (.obj (Keyed.ofList (members.map joinedMember)), []) :=
    (readValue_object someMember _ 979 _).trans
      (readMembers_scalars someMember areScalars 979 [] enough [])
  rw [read, readWithin, written, noSpace, length, opened]
  rfl

/-! ## One line -/

/-- A character of ASCII that is no control. -/
def IsVisible (character : Char) : Prop :=
  0x20 ≤ character.toNat ∧ character.toNat ≤ 0x7E

instance (character : Char) : Decidable (IsVisible character) :=
  inferInstanceAs (Decidable (_ ∧ _))

/-- The escape of a unit is visible. -/
theorem isVisible_escapeUnit {unit : Nat} (fits : unit < 0x10000) :
    ∀ character ∈ escapeUnit unit, IsVisible character := by
  have digits : ∀ value < 16, IsVisible (Hex.digit value) := by decide
  obtain ⟨values, isPadded, -, small, -⟩ := Hex.exists_padded (show unit < 16 ^ 4 from fits)
  rw [escapeUnit, isPadded]
  simp only [List.forall_mem_cons, List.forall_mem_map]
  exact ⟨by decide, by decide, fun value isValue => digits value (small value isValue)⟩

/-- Every code point is written with visible characters. -/
theorem isVisible_escapePoint (point : CodePoint) :
    ∀ character ∈ escapePoint point, IsVisible character := by
  cases point with
  | half offset =>
      have small := offset.isLt
      rw [escapePoint_half]
      exact isVisible_escapeUnit (by omega)
  | char written =>
      have valid : written.toNat < 0xD800 ∨ 0xDFFF < written.toNat ∧ written.toNat < 0x110000 :=
        written.valid
      generalize escapes : escapePoint (.char written) = escape
      have isEscape := isEscape_escapePoint written
      rw [escapes] at isEscape
      cases isEscape with
      | letter isLetter _ =>
          have letters : ∀ letter ∈ ['"', '\\', 'n', 'r', 't', 'b', 'f'], IsVisible letter :=
            List.all_iff_forall_prop.1 (by decide)
          simpa using ⟨by decide, letters _ isLetter⟩
      | itself visible _ => exact List.forall_mem_singleton.2 visible
      | unit short => exact isVisible_escapeUnit (by omega)
      | pair long =>
          intro character isPart
          rcases List.mem_append.1 isPart with isFirst | isSecond
          · exact isVisible_escapeUnit (by omega) character isFirst
          · exact isVisible_escapeUnit (by omega) character isSecond

/-- Every text is written with visible characters. -/
theorem isVisible_writeText (text : Text) :
    ∀ character ∈ writeText text, IsVisible character := by
  intro character isPart
  simp only [writeText, List.cons_append, List.mem_cons, List.mem_append, List.mem_flatMap,
    List.not_mem_nil, or_false] at isPart
  rcases isPart with rfl | ⟨point, -, isEscape⟩ | rfl
  · decide
  · exact isVisible_escapePoint point character isEscape
  · decide

/-- Every scalar is written with visible characters. -/
theorem isVisible_scalar {document : Json} (isScalar : document.IsScalar) :
    ∀ character ∈ writeChars .compact document, IsVisible character := by
  cases isScalar with
  | null =>
      rw [writeChars]
      exact List.all_iff_forall_prop.1 (by decide)
  | text text =>
      rw [writeChars]
      exact isVisible_writeText text
  | count number short =>
      have digits : ∀ value < 10, IsVisible (Hex.digit value) := by decide
      obtain ⟨values, writes⟩ := Numeral.exists_writes (by decide) (by decide : 10 ≤ 16) number
      rw [writeChars_count writes, List.forall_mem_map]
      exact fun value isValue => digits value (writes.small value isValue)

/-- Members that are scalars are written with visible characters. -/
theorem isVisible_members {members : List (Text × Json)}
    (areScalars : ∀ member ∈ members, member.2.IsScalar) :
    ∀ character ∈ writeMembers .compact members, IsVisible character := by
  induction members with
  | nil => simp [writeMembers]
  | cons member others inductionHypothesis =>
      obtain ⟨key, value⟩ := member
      obtain ⟨isScalar, areOthers⟩ := List.forall_mem_cons.1 areScalars
      have later := inductionHypothesis areOthers
      intro character isPart
      have parts : character ∈ writeText key ∨ character ∈ [':', ','] ∨
          character ∈ writeChars .compact value ∨ character ∈ writeMembers .compact others := by
        cases others with
        | nil =>
            simp only [writeMembers, Spacing.compact, List.mem_append] at isPart ⊢
            grind
        | cons next others =>
            simp only [writeMembers, Spacing.compact, List.mem_append] at isPart ⊢
            grind
      rcases parts with ofKey | isMark | ofValue | isLater
      · exact isVisible_writeText key character ofKey
      · have marks : ∀ mark ∈ [':', ','], IsVisible mark :=
          List.all_iff_forall_prop.1 (by decide)
        exact marks character isMark
      · exact isVisible_scalar isScalar character ofValue
      · exact later character isLater

/-- An object whose members are scalars is written with visible characters between braces. -/
theorem exists_writeChars_object {members : List (Text × Json)}
    (areScalars : ∀ member ∈ members, member.2.IsScalar) :
    ∃ inside, writeChars .compact (.obj members) = '\x7b' :: (inside ++ ['\x7d']) ∧
      ∀ character ∈ inside, IsVisible character :=
  ⟨_, by rw [writeChars], isVisible_members areScalars⟩

end TokenLens.Json
