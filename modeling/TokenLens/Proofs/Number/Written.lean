import TokenLens.Proofs.Hex

/-!
# Written numbers

A number is written with the digits of its value, the first of which is zero for zero only. So what
a numeral in base ten or sixteen stands for is the number that it was written for, and padding with
zeros does not change it.
-/

namespace TokenLens.Numeral

/-- Digits in front of one more digit have the value of a number with one more digit. -/
theorem valueOf_concat (base : Nat) (digits : List Nat) (digit : Nat) :
    valueOf base (digits ++ [digit]) = valueOf base digits * base + digit := by
  simp [valueOf]

/-- Zeros in front do not count. -/
theorem valueOf_replicate_zero (base count : Nat) (digits : List Nat) :
    valueOf base (List.replicate count 0 ++ digits) = valueOf base digits := by
  induction count with
  | zero => rfl
  | succ count inductionHypothesis =>
      rw [← inductionHypothesis, List.replicate_succ]
      simp [valueOf]

/-- The values of the digits that a number is written with. -/
structure Writes (base number : Nat) (values : List Nat) : Prop where
  digits : Nat.toDigits base number = values.map Hex.digit
  small : ∀ value ∈ values, value < base
  value : valueOf base values = number
  first : values.head? = some 0 → values = [0]

/-- A number is written with at least one digit. -/
theorem Writes.exists_cons {base number : Nat} {values : List Nat}
    (writes : Writes base number values) : ∃ first rest, values = first :: rest := by
  cases values with
  | nil => exact absurd (writes.digits ▸ Nat.toDigits_ne_nil) (by simp)
  | cons first rest => exact ⟨first, rest, rfl⟩

/-- Every number is written with digits of its value. -/
theorem exists_writes {base : Nat} (several : 1 < base) (few : base ≤ 16) (number : Nat) :
    ∃ values, Writes base number values := by
  have isDigit : ∀ value < 16, value.digitChar = Hex.digit value := by decide
  induction number using Nat.strong_induction_on with
  | _ number inductionHypothesis =>
      by_cases isSmall : number < base
      · refine ⟨[number], ⟨?_, by simpa using isSmall, by simp [valueOf], by simp⟩⟩
        rw [Nat.toDigits_of_lt_base isSmall, isDigit number (by omega)]
        rfl
      · have larger : base ≤ number := Nat.not_lt.1 isSmall
        obtain ⟨values, writes⟩ := inductionHypothesis (number / base)
          (Nat.div_lt_self (by omega) several)
        have lastSmall : number % base < base := Nat.mod_lt _ (by omega)
        refine ⟨values ++ [number % base], ⟨?_, ?_, ?_, ?_⟩⟩
        · rw [Nat.toDigits_of_base_le several larger, writes.digits, isDigit _ (by omega),
            List.map_append]
          rfl
        · intro value isValue
          rcases List.mem_append.1 isValue with isEarlier | isLast
          · exact writes.small value isEarlier
          · exact (List.mem_singleton.1 isLast) ▸ lastSmall
        · rw [valueOf_concat, writes.value, Nat.div_add_mod']
        · intro startsZero
          have isZero : values = [0] := by
            obtain ⟨first, rest, rfl⟩ := writes.exists_cons
            exact writes.first startsZero
          have noQuotient : number / base = 0 := by
            rw [← writes.value, isZero]
            simp [valueOf]
          exact absurd noQuotient (Nat.div_pos larger (by omega)).ne'

end TokenLens.Numeral

namespace TokenLens.Hex

/-- A number below `16 ^ width` is padded to that many digits, which stand for it. -/
theorem exists_padded {width number : Nat} (fits : number < 16 ^ width) :
    ∃ values, padded width number = values.map digit ∧ values.length = width ∧
      (∀ value ∈ values, value < 16) ∧ Numeral.valueOf 16 values = number := by
  obtain ⟨values, isDigits, short, small, isValue⟩ : ∃ values,
      digitsOf number = values.map digit ∧ values.length ≤ width ∧
        (∀ value ∈ values, value < 16) ∧ Numeral.valueOf 16 values = number := by
    by_cases isZero : number = 0
    · subst isZero
      exact ⟨[], rfl, Nat.zero_le width, by simp, rfl⟩
    · obtain ⟨values, writes⟩ := Numeral.exists_writes (by decide) (Nat.le_refl 16) number
      refine ⟨values, ?_, ?_, writes.small, writes.value⟩
      · rw [digitsOf, if_neg isZero, writes.digits]
      · have someDigit : 0 < width := by
          rcases Nat.eq_zero_or_pos width with rfl | positive
          · rw [Nat.pow_zero] at fits
            omega
          · exact positive
        have short := (Nat.length_toDigits_le_iff (by decide) someDigit).2 fits
        rwa [writes.digits, List.length_map] at short
  refine ⟨List.replicate (width - values.length) 0 ++ values, ?_, ?_, ?_, ?_⟩
  · have isZero : digit 0 = '0' := by decide
    rw [padded, isDigits, List.map_append, List.map_replicate, isZero, List.length_map]
  · rw [List.length_append, List.length_replicate]
    omega
  · intro value isPart
    rcases List.mem_append.1 isPart with isPadding | isDigit
    · rw [List.eq_of_mem_replicate isPadding]
      decide
    · exact small value isDigit
  · rw [Numeral.valueOf_replicate_zero, isValue]

end TokenLens.Hex
