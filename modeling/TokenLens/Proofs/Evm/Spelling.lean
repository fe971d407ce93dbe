import Mathlib.Logic.Function.Basic
import TokenLens.Evm.Code
import TokenLens.Proofs.Hex

/-!
# The spelling of code

Code has one spelling, two digits a byte, and no two codes share it. So what is said about the text
of code is said about its bytes, as long as a text is only cut between bytes.
-/

namespace TokenLens.Code

/-- The text of two codes, one after the other. -/
theorem text_append (first second : Code) :
    (first.append second).text = first.text ++ second.text := by
  simp [append, text, Hex.ofBytes, Text.ofChars]

/-- The text of code holds two digits a byte. -/
theorem length_text (code : Code) : code.text.length = 2 * code.bytes.length := by
  rw [text, Text.ofChars, List.length_map, Hex.length_ofBytes]

/-- Codes with one text are the same. -/
theorem text_injective : Function.Injective text := by
  rintro ⟨bytes⟩ ⟨others⟩ same
  have digits : Hex.ofBytes bytes = Hex.ofBytes others :=
    List.map_injective_iff.2 (fun _ _ => CodePoint.char.inj) same
  rw [← Hex.toBytes_ofBytes bytes, digits, Hex.toBytes_ofBytes]

/-- A text that is cut between two bytes is the text of two codes, one after the other. -/
theorem exists_append_of_text {code : Code} {left right : Text} {count : Nat}
    (isText : code.text = left ++ right) (even : left.length = 2 * count) :
    ∃ first second : Code, code = first.append second ∧ first.text = left ∧
      second.text = right := by
  have enough : count ≤ code.bytes.length := by
    have total := congrArg List.length isText
    rw [length_text, List.length_append] at total
    omega
  let first : Code := ⟨code.bytes.take count⟩
  let second : Code := ⟨code.bytes.drop count⟩
  have whole : code = first.append second := by simp [first, second, append]
  have sameLength : first.text.length = left.length := by
    rw [length_text, even, List.length_take_of_le enough]
  rw [whole, text_append] at isText
  obtain ⟨isLeft, isRight⟩ := List.append_inj isText sameLength
  exact ⟨first, second, whole, isLeft, isRight⟩

end TokenLens.Code
