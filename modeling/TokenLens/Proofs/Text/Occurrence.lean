import TokenLens.Text.Search

/-!
# Occurrence in joined texts

The search for a needle is the search for a contiguous part. In texts that are joined there are
parts that none of them has: those that straddle a boundary. `isInfix_flatten_iff` says that there
are no others.
-/

namespace TokenLens.Text

variable {needle text : Text} {texts : List Text}

/-- A needle is found exactly where it is a contiguous part. -/
theorem occursIn_iff_isInfix : occursIn needle text = true ↔ needle <:+: text := by
  induction text with
  | nil => simp [occursIn]
  | cons point rest inductionHypothesis =>
      rw [occursIn, Bool.or_eq_true, List.isPrefixOf_iff_prefix, inductionHypothesis,
        List.infix_cons_iff]

/-- A needle that begins before some boundary between joined texts and ends behind it. -/
def Straddles (needle : Text) (texts : List Text) : Prop :=
  ∃ before after front back, texts = before ++ after ∧ needle = front ++ back ∧
    front ≠ [] ∧ back ≠ [] ∧ front <:+ before.flatten ∧ back <+: after.flatten

/-- What straddles a boundary does so with one more text in front. -/
theorem Straddles.cons (straddles : Straddles needle texts) (first : Text) :
    Straddles needle (first :: texts) := by
  obtain ⟨before, after, front, back, rfl, rfl, frontExists, backExists, ends, begins⟩ := straddles
  refine ⟨first :: before, after, front, back, rfl, rfl, frontExists, backExists, ?_, begins⟩
  exact ends.trans (List.suffix_append first before.flatten)

/-- What straddles a boundary is a part of the joined texts. -/
theorem Straddles.isInfix (straddles : Straddles needle texts) : needle <:+: texts.flatten := by
  obtain ⟨before, after, front, back, rfl, isNeedle, frontExists, backExists, ends, begins⟩ :=
    straddles
  rw [List.flatten_append, List.infix_append_iff_ne_nil]
  exact .inr (.inr ⟨front, back, frontExists, backExists, isNeedle, ends, begins⟩)

/-- The parts of joined texts are those of each and those that straddle a boundary. -/
theorem isInfix_flatten_iff (someText : texts ≠ []) :
    needle <:+: texts.flatten ↔ (∃ text ∈ texts, needle <:+: text) ∨ Straddles needle texts := by
  constructor
  · intro isPart
    induction texts with
    | nil => exact absurd rfl someText
    | cons first rest inductionHypothesis =>
        rw [List.flatten_cons, List.infix_append_iff_ne_nil] at isPart
        rcases isPart with isPart | isPart | ⟨front, back, frontExists, backExists, split⟩
        · exact .inl ⟨first, List.mem_cons_self, isPart⟩
        · by_cases alone : rest = []
          · -- Only the empty needle is a part of no text.
            subst alone
            obtain rfl := List.infix_nil.1 isPart
            exact .inl ⟨first, List.mem_cons_self, List.nil_infix⟩
          · rcases inductionHypothesis alone isPart with ⟨text, isText, isPart⟩ | straddles
            · exact .inl ⟨text, List.mem_cons_of_mem _ isText, isPart⟩
            · exact .inr (straddles.cons first)
        · obtain ⟨isNeedle, ends, begins⟩ := split
          exact .inr ⟨[first], rest, front, back, rfl, isNeedle, frontExists, backExists,
            by simpa using ends, begins⟩
  · rintro (⟨text, isText, isPart⟩ | straddles)
    · exact isPart.trans (List.infix_of_mem_flatten isText)
    · exact straddles.isInfix

end TokenLens.Text
