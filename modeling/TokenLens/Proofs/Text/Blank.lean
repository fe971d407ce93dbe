import Mathlib.Data.List.TakeWhile
import TokenLens.Text.Blank

/-!
# Stripped texts

Stripping takes a text apart into the blanks in front, the part that stays and the blanks behind.
What neither begins nor ends with a blank stays as it is, whatever blanks are put around it.
-/

namespace TokenLens.Text

/-- A text is of characters exactly if no half of a pair stands alone in it. -/
theorem chars?_eq_some_iff {text : Text} {characters : List Char} :
    text.chars? = some characters ↔ text = ofChars characters := by
  induction text generalizing characters with
  | nil => cases characters <;> simp [chars?, ofChars]
  | cons point rest inductionHypothesis =>
      cases point with
      | half offset => cases characters <;> simp [chars?, ofChars]
      | char character =>
          rw [chars?, Option.map_eq_some_iff]
          simp only [inductionHypothesis]
          cases characters with
          | nil => simp [ofChars]
          | cons first others =>
              simp only [List.cons.injEq, ofChars, List.map_cons, CodePoint.char.injEq]
              grind

section Trim

variable {α : Type} {inClass : α → Bool} {before core after : List α}

/-- What begins with an element outside of a class keeps its beginning. -/
theorem dropWhile_append_of_begins (inFront : ∀ item ∈ before, inClass item = true)
    (begins : ∀ first ∈ core.head?, inClass first = false) :
    (before ++ core).dropWhile inClass = core := by
  rw [List.dropWhile_append_of_pos inFront]
  cases core with
  | nil => rfl
  | cons first rest =>
      exact List.dropWhile_cons_of_neg (by simp [begins first rfl])

/-- A part that neither begins nor ends inside of a class is what stays of it. -/
theorem trimBoth_eq (inFront : ∀ item ∈ before, inClass item = true)
    (behind : ∀ item ∈ after, inClass item = true)
    (begins : ∀ first ∈ core.head?, inClass first = false)
    (ends : ∀ last ∈ core.getLast?, inClass last = false) :
    trimBoth inClass (before ++ core ++ after) = core := by
  by_cases isEmpty : core = []
  · subst isEmpty
    have allInClass : ∀ item ∈ before ++ [] ++ after, inClass item = true := by
      simpa [or_imp, forall_and] using ⟨inFront, behind⟩
    rw [trimBoth, List.dropWhile_eq_nil_iff.2 allInClass]
    rfl
  · have stays : (before ++ core ++ after).dropWhile inClass = core ++ after := by
      rw [List.append_assoc]
      refine dropWhile_append_of_begins inFront fun first isFirst => begins first ?_
      simpa [List.head?_append, List.head?_eq_some_head isEmpty] using isFirst
    rw [trimBoth, stays, List.reverse_append, dropWhile_append_of_begins, List.reverse_reverse]
    · simpa using behind
    · simpa using ends

/-- What trimming takes away lies in the class. -/
theorem exists_trimBoth (inClass : α → Bool) (items : List α) :
    ∃ before after, items = before ++ trimBoth inClass items ++ after ∧
      (∀ item ∈ before, inClass item = true) ∧ ∀ item ∈ after, inClass item = true := by
  let rest := items.dropWhile inClass
  refine ⟨items.takeWhile inClass, (rest.reverse.takeWhile inClass).reverse, ?_, ?_, ?_⟩
  · have isRest : trimBoth inClass items ++ (rest.reverse.takeWhile inClass).reverse = rest := by
      rw [trimBoth, ← List.reverse_append, List.takeWhile_append_dropWhile, List.reverse_reverse]
    rw [List.append_assoc, isRest, List.takeWhile_append_dropWhile]
  · exact fun item isTaken => List.mem_takeWhile_imp isTaken
  · exact fun item isTaken => List.mem_takeWhile_imp (List.mem_reverse.1 isTaken)

end Trim

end TokenLens.Text
