import TokenLens.Json.Encoding
import TokenLens.Json.Reader

/-!
# Documents that are nested too deeply

A text that opens more lists inside each other than the reader has levels is refused as nested too
deeply, whatever stands behind the brackets. The same holds of the bytes of such a text.
-/

namespace TokenLens

namespace Json

/-- A text that starts with so many opening brackets. -/
def opening (count : Nat) (rest : Text) : Text :=
  List.replicate count (.char '[') ++ rest

/-- One bracket more. -/
theorem opening_succ (count : Nat) (rest : Text) :
    opening (count + 1) rest = .char '[' :: opening count rest := by
  rw [opening, List.replicate_succ, List.cons_append, opening]

/-- Brackets behind brackets. -/
theorem opening_add (count more : Nat) (rest : Text) :
    opening (count + more) rest = opening count (opening more rest) := by
  rw [opening, ← List.replicate_append_replicate, List.append_assoc, opening, opening]

/-- A bracket is no space. -/
theorem skipSpaces_opening_succ (count : Nat) (rest : Text) :
    skipSpaces (opening (count + 1) rest) = opening (count + 1) rest := by
  rw [opening_succ]
  rfl

/-- A value in front of a text is refused if it opens more lists than there are levels. -/
theorem readValue_opening {fuel levels : Nat} (enough : 2 * levels < fuel) (rest : Text) :
    readValue fuel levels (opening (levels + 1) rest) = .error .tooDeep := by
  induction levels generalizing fuel with
  | zero =>
      obtain ⟨fuel, rfl⟩ := Nat.exists_eq_add_one_of_ne_zero (by omega : fuel ≠ 0)
      rfl
  | succ levels inductionHypothesis =>
      obtain ⟨fuel, rfl⟩ := Nat.exists_eq_add_of_le' (by omega : 2 ≤ fuel)
      have deeper : readValue fuel levels (opening (levels + 1) rest) = .error .tooDeep :=
        inductionHypothesis (by omega)
      rw [opening_succ, readValue]
      simp only [skipSpaces_opening_succ]
      rw [opening_succ] at deeper ⊢
      have refused : readItems (fuel + 1) levels [] (.char '[' :: opening levels rest) =
          .error .tooDeep := by
        rw [readItems, deeper]
      exact refused

/-- A text that opens more lists than may stand inside each other is no document. -/
theorem read_opening {count : Nat} (deep : maxLevels < count) (rest : Text) :
    read (opening count rest) = .error .tooDeep := by
  obtain ⟨more, rfl⟩ := Nat.exists_eq_add_of_lt deep
  rw [show maxLevels + more + 1 = (maxLevels + 1) + more by omega, opening_add]
  have enough : 2 * maxLevels < 2 * (opening (maxLevels + 1) (opening more rest)).length + 2 := by
    rw [opening, List.length_append, List.length_replicate]
    omega
  rw [read, readWithin, skipSpaces_opening_succ, readValue_opening enough]

end Json

namespace Utf8

/-- Bytes of ASCII spell the characters that they are. -/
theorem decode?_ascii {bytes : List UInt8} (ascii : ∀ byte ∈ bytes, byte.toNat < 0x80) :
    decode? bytes = some (bytes.map fun byte => Char.ofNat byte.toNat) := by
  unfold decode? pieces
  induction bytes with
  | nil => rfl
  | cons byte rest inductionHypothesis =>
      obtain ⟨here, after⟩ := List.forall_mem_cons.1 ascii
      have isWhole : first byte = .whole (Char.ofNat byte.toNat) := by simp [first, here]
      rw [piecesFrom]
      simp only [isWhole]
      rw [List.mapM_cons, inductionHypothesis after]
      rfl

/-- No half of a pair is among bytes of ASCII. -/
theorem decodeWithHalves?_ascii {passed bytes : List UInt8}
    (ascii : ∀ byte ∈ passed.reverse ++ bytes, byte.toNat < 0x80) :
    decodeWithHalves? passed bytes =
      some (Text.ofChars ((passed.reverse ++ bytes).map fun byte => Char.ofNat byte.toNat)) := by
  fun_induction decodeWithHalves? passed bytes with
  | case1 passed first second third rest half isHalf _ =>
      have small := ascii first (by simp)
      have isMark : first = 0xED := by
        unfold half? at isHalf
        split at isHalf
        next marked =>
          simp only [Bool.and_eq_true, decide_eq_true_eq] at marked
          exact marked.1.1
        next => cases isHalf
      exact absurd small (by rw [isMark]; decide)
  | case2 passed first second third rest noHalf inductionHypothesis =>
      have same : (first :: passed).reverse ++ second :: third :: rest =
          passed.reverse ++ first :: second :: third :: rest := by simp
      rw [same] at inductionHypothesis
      exact inductionHypothesis ascii
  | case3 passed bytes _ => rw [decode?_ascii ascii]; rfl

end Utf8

namespace Json

/-- The bytes of lists inside each other. -/
def nestedBytes (count : Nat) : List UInt8 :=
  List.replicate count 0x5B ++ List.replicate count 0x5D

/-- Bytes of more lists than may stand inside each other spell no document. -/
theorem read_nestedBytes {count : Nat} (deep : maxLevels < count) :
    (textOfBytes? (nestedBytes count)).map read = some (.error .tooDeep) := by
  have ascii : ∀ byte ∈ nestedBytes count, byte.toNat < 0x80 := by
    intro byte isByte
    rcases List.mem_append.1 isByte with isOpening | isClosing
    · rw [List.eq_of_mem_replicate isOpening]
      decide
    · rw [List.eq_of_mem_replicate isClosing]
      decide
  have isText : textOfBytes? (nestedBytes count) =
      Utf8.decodeWithHalves? [] (nestedBytes count) := by
    obtain ⟨more, rfl⟩ := Nat.exists_eq_add_of_lt (Nat.lt_trans (by decide : 3 < maxLevels) deep)
    rw [show 3 + more + 1 = more + 4 by omega, nestedBytes]
    simp only [List.replicate_succ, List.cons_append]
    rfl
  have opens : (Text.ofChars ((nestedBytes count).map fun byte => Char.ofNat byte.toNat)) =
      opening count (List.replicate count (.char ']')) := by
    simp only [nestedBytes, Text.ofChars, opening, List.map_append, List.map_replicate]
    rfl
  rw [isText, Utf8.decodeWithHalves?_ascii (by simpa using ascii), List.reverse_nil,
    List.nil_append, opens, Option.map_some, read_opening deep]

end Json

end TokenLens
