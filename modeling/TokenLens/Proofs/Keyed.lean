import Mathlib.Algebra.GroupWithZero.Nat
import TokenLens.Keyed

/-!
# What is found under a key

A lookup finds the first pair with the key (`Keyed.get?_eq_some_iff`). Pairs that are put in one
after the other are looked up as the reversed list would be, so of them the last one with the key is
found (`Keyed.get?_ofList_eq_some_iff`). Numbers under keys add up to what was put in
(`Keyed.sum_insert`).
-/

namespace TokenLens.Keyed

variable {α : Type} {key : Text} {value : α} {pairs kept : List (Text × α)}

/-- The value under a key in two lists is that of the first that has one. -/
theorem get?_append (left right : List (Text × α)) :
    get? key (left ++ right) = (get? key left).or (get? key right) := by
  induction left with
  | nil => rfl
  | cons pair rest inductionHypothesis =>
      rw [List.cons_append, get?, get?, inductionHypothesis]
      split <;> rfl

/-- Something is found under the keys of pairs. -/
theorem isSome_get?_iff : (get? key pairs).isSome = true ↔ key ∈ pairs.map Prod.fst := by
  induction pairs with
  | nil => simp [get?]
  | cons pair rest inductionHypothesis =>
      rw [get?, List.map_cons, List.mem_cons, ← inductionHypothesis]
      by_cases same : pair.1 = key
      · simp [same]
      · simp [same, Ne.symm same]

/-- The value under a key is that of the first pair with this key. -/
theorem get?_eq_some_iff : get? key pairs = some value ↔
    ∃ before after, pairs = before ++ (key, value) :: after ∧ key ∉ before.map Prod.fst := by
  constructor
  · intro found
    induction pairs with
    | nil => cases found
    | cons pair rest inductionHypothesis =>
        rw [get?] at found
        split at found
        next same =>
          obtain rfl := Option.some.inj found
          exact ⟨[], rest, by rw [← same]; rfl, List.not_mem_nil⟩
        next different =>
          obtain ⟨before, after, rfl, isFirst⟩ := inductionHypothesis found
          refine ⟨pair :: before, after, rfl, ?_⟩
          simp only [List.map_cons, List.mem_cons, not_or]
          exact ⟨Ne.symm different, isFirst⟩
  · rintro ⟨before, after, rfl, isFirst⟩
    have noneBefore : get? key before = none := by
      rw [← isSome_get?_iff] at isFirst
      simpa using isFirst
    rw [get?_append, noneBefore, Option.none_or, get?, if_pos rfl]

/-- Pairs that are put in come before those that were there, the last of them first. -/
theorem get?_foldl_insert :
    get? key (pairs.foldl (fun kept pair => insert pair.1 pair.2 kept) kept) =
      (get? key pairs.reverse).or (get? key kept) := by
  induction pairs generalizing kept with
  | nil => rfl
  | cons pair rest inductionHypothesis =>
      -- An insertion is looked up before all that was kept, whatever place it takes.
      have inserted : get? key (insert pair.1 pair.2 kept) =
          (get? key [pair]).or (get? key kept) := by
        by_cases same : key = pair.1
        · simp [same, get?]
        · simp [get?_insert_of_ne same, get?, Ne.symm same]
      rw [List.foldl_cons, inductionHypothesis, inserted, List.reverse_cons, get?_append,
        Option.or_assoc]

/-- Pairs put in one after the other are looked up from the last to the first. -/
theorem get?_ofList : get? key (ofList pairs) = get? key pairs.reverse := by
  rw [ofList, get?_foldl_insert, get?, Option.or_none]

/-- Something is found under the keys of pairs put in one after the other. -/
theorem isSome_get?_ofList :
    (get? key (ofList pairs)).isSome = true ↔ key ∈ pairs.map Prod.fst := by
  rw [get?_ofList, isSome_get?_iff, List.map_reverse, List.mem_reverse]

/-- The value under a key in pairs put in one after the other is that of the last pair with this
key. -/
theorem get?_ofList_eq_some_iff : get? key (ofList pairs) = some value ↔
    ∃ before after, pairs = before ++ (key, value) :: after ∧ key ∉ after.map Prod.fst := by
  rw [get?_ofList, get?_eq_some_iff]
  constructor
  · rintro ⟨before, after, isReverse, isFirst⟩
    refine ⟨after.reverse, before.reverse, ?_, by simpa using isFirst⟩
    rw [← List.reverse_reverse pairs, isReverse]
    simp
  · rintro ⟨before, after, rfl, isLast⟩
    exact ⟨after.reverse, before.reverse, by simp, by simpa using isLast⟩

/-- A value under a new key is put at the end. -/
theorem insert_of_notMem (isNew : key ∉ pairs.map Prod.fst) :
    insert key value pairs = pairs ++ [(key, value)] := by
  induction pairs with
  | nil => rfl
  | cons pair rest inductionHypothesis =>
      rw [List.map_cons, List.mem_cons, not_or] at isNew
      rw [insert, if_neg (Ne.symm isNew.1), inductionHypothesis isNew.2]
      rfl

/-- An insertion keeps the keys apart. -/
theorem nodup_keys_insert (areApart : (pairs.map Prod.fst).Nodup) :
    ((insert key value pairs).map Prod.fst).Nodup := by
  have sameKeys (isThere : key ∈ pairs.map Prod.fst) :
      (insert key value pairs).map Prod.fst = pairs.map Prod.fst := by
    induction pairs with
    | nil => cases isThere
    | cons pair rest inductionHypothesis =>
        rw [insert]
        by_cases same : pair.1 = key
        · rw [if_pos same, List.map_cons, List.map_cons, same]
        · have isLater : key ∈ rest.map Prod.fst :=
            (List.mem_cons.1 isThere).resolve_left (Ne.symm same)
          rw [if_neg same, List.map_cons, List.map_cons,
            inductionHypothesis (List.nodup_cons.1 areApart).2 isLater]
  by_cases isThere : key ∈ pairs.map Prod.fst
  · rwa [sameKeys isThere]
  · rw [insert_of_notMem isThere, List.map_append]
    refine List.nodup_append.2 ⟨areApart, by simp, fun present isPresent other isNew same => ?_⟩
    rw [same, List.mem_singleton.1 isNew] at isPresent
    exact isThere isPresent

/-- Pairs whose keys are apart are put in one after the other as they are. -/
theorem ofList_of_nodup (areApart : (pairs.map Prod.fst).Nodup) : ofList pairs = pairs := by
  suffices onwards : ∀ kept : List (Text × α), ((kept ++ pairs).map Prod.fst).Nodup →
      pairs.foldl (fun kept pair => insert pair.1 pair.2 kept) kept = kept ++ pairs from
    onwards [] areApart
  clear areApart
  induction pairs with
  | nil => intro kept _; simp
  | cons pair rest inductionHypothesis =>
      intro kept areApart
      have isNew : pair.1 ∉ kept.map Prod.fst := by
        intro isThere
        rw [List.map_append, List.map_cons] at areApart
        exact (List.nodup_append.1 areApart).2.2 _ isThere _ List.mem_cons_self rfl
      rw [List.foldl_cons, insert_of_notMem isNew, inductionHypothesis _ (by simpa using areApart)]
      simp

/-- A number that is put in is added to the sum, and the one that it takes the place of is lost. -/
theorem sum_insert (key : Text) (number : Nat) (numbers : List (Text × Nat)) :
    ((insert key number numbers).map Prod.snd).sum + (get? key numbers).getD 0 =
      (numbers.map Prod.snd).sum + number := by
  induction numbers with
  | nil => simp [insert, get?]
  | cons pair rest inductionHypothesis =>
      rw [insert, get?]
      by_cases same : pair.1 = key
      · rw [if_pos same, if_pos same, Option.getD_some, List.map_cons, List.map_cons,
          List.sum_cons, List.sum_cons]
        omega
      · rw [if_neg same, if_neg same, List.map_cons, List.map_cons, List.sum_cons, List.sum_cons]
        omega

end TokenLens.Keyed
