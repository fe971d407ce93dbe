import Mathlib.Data.List.Sort
import TokenLens.Proofs.Abi.Refusal

/-!
# Selectors of lists that are put together

Whether a list of entries has selectors, and which, depends on nothing but its members
(`Abi.selectors_arr_eq_ok_iff`). So the selectors of two lists side by side are those of both, and
the order and the repetition of entries do not matter. Only what is said about a list that is
refused depends on the order: it is what is said about its first faulty entry
(`Abi.selectors_arr_eq_error_iff`).
-/

namespace TokenLens

/-- Two sets with the same members are the same. -/
theorem SelectorSet.eq_of_mem_iff {left right : SelectorSet}
    (same : ∀ selector, selector ∈ left ↔ selector ∈ right) : left = right := by
  have irrefl : Std.Irrefl fun earlier later : Text => earlier.before later = true :=
    ⟨fun text => by simp⟩
  have antisymm : Std.Antisymm fun earlier later : Text => earlier.before later = true :=
    ⟨fun earlier later before after => by simpa using Text.before_trans before after⟩
  exact ext_toList (left.increasing.eq_of_mem_iff right.increasing same)

namespace Declaration

variable {entry : Json} {entries : List Json} {fault : EntryError}

/-- An entry is faulty exactly if it is malformed or breaks the reading down. -/
theorem not_isSound_iff : ¬IsSound entry ↔ IsMalformed entry ∨ BreaksDown entry := by
  constructor
  · intro faulty
    by_contra neither
    rw [not_or] at neither
    exact faulty ⟨neither.1, neither.2⟩
  · rintro (malformed | breaks) sound
    · exact sound.notMalformed malformed
    · exact sound.notBroken breaks

/-- An entry without a selector is one that cannot be read. -/
theorem entrySelector_eq_error_iff :
    entrySelector entry = .error fault ↔ ofEntry entry = .error fault := by
  rw [entrySelector]
  cases ofEntry entry with
  | ok declaration? => simp [Except.map]
  | error found => simp [Except.map]

end Declaration

namespace Abi

open Declaration (IsSound entrySelector nestedEntry)

variable {entries others : List Json} {set : SelectorSet} {fault : AbiError}

/-- A list stands for itself. -/
theorem lists_arr (entries : List Json) : Lists (.arr entries) entries :=
  entries_eq_ok_iff.1 rfl

/-- A list has selectors exactly if all of its entries are sound, and they are those of the
entries. -/
theorem selectors_arr_eq_ok_iff : selectors (.arr entries) = .ok set ↔
    (∀ entry ∈ entries, IsSound entry) ∧ ∀ selector, selector ∈ set ↔
      ∃ entry ∈ entries, entrySelector entry = .ok (some selector) := by
  constructor
  · intro accepted
    obtain ⟨each, areSelectors⟩ := of_selectors_eq_ok (lists_arr entries) accepted
    exact ⟨fun entry isEntry => Declaration.isSound_iff.2 (each entry isEntry), areSelectors⟩
  · rintro ⟨sound, areSelectors⟩
    obtain ⟨found, accepted⟩ := exists_selectors (lists_arr entries)
      fun entry isEntry => Declaration.isSound_iff.1 (sound entry isEntry)
    have areFound := (of_selectors_eq_ok (lists_arr entries) accepted).2
    have same : found = set := SelectorSet.eq_of_mem_iff fun selector =>
      (areFound selector).trans (areSelectors selector).symm
    rw [accepted, same]

/-- What is said about a list that is refused is said about its first faulty entry. -/
theorem selectors_arr_eq_error_iff : selectors (.arr entries) = .error fault ↔
    ∃ before entry after entryFault, entries = before ++ entry :: after ∧
      (∀ earlier ∈ before, IsSound earlier) ∧
      (Declaration.IsMalformed entry ∨ Declaration.BreaksDown entry) ∧
      entrySelector entry = .error entryFault ∧ fault = .entry entryFault := by
  have isRefused : selectors (.arr entries) = .error fault ↔
      ∃ entryFault, Declaration.ofEntries entries = .error entryFault ∧
        fault = .entry entryFault := by
    rw [selectors_of_lists (lists_arr entries)]
    cases Declaration.ofEntries entries with
    | ok declarations => simp [Except.mapError, Except.map]
    | error entryFault => simp [Except.mapError, Except.map, eq_comm]
  rw [isRefused]
  constructor
  · rintro ⟨entryFault, refused, isFault⟩
    obtain ⟨entry, ⟨before, after, split, sound, faulty⟩, failed⟩ :=
      Declaration.ofEntries_eq_error_iff.1 refused
    exact ⟨before, entry, after, entryFault, split, sound, Declaration.not_isSound_iff.1 faulty,
      Declaration.entrySelector_eq_error_iff.2 failed, isFault⟩
  · rintro ⟨before, entry, after, entryFault, split, sound, faulty, failed, isFault⟩
    exact ⟨entryFault, Declaration.ofEntries_eq_error_iff.2
      ⟨entry, ⟨before, after, split, sound, Declaration.not_isSound_iff.2 faulty⟩,
        Declaration.entrySelector_eq_error_iff.1 failed⟩, isFault⟩

/-- Two lists side by side have selectors exactly if both have, and these are their selectors
together. -/
theorem selectors_append_eq_ok_iff : selectors (.arr (entries ++ others)) = .ok set ↔
    ∃ left right, selectors (.arr entries) = .ok left ∧ selectors (.arr others) = .ok right ∧
      set = left.union right := by
  simp only [selectors_arr_eq_ok_iff, List.forall_mem_append]
  constructor
  · rintro ⟨⟨soundLeft, soundRight⟩, areSelectors⟩
    obtain ⟨left, accepted⟩ := exists_selectors (lists_arr entries)
      fun entry isEntry => Declaration.isSound_iff.1 (soundLeft entry isEntry)
    obtain ⟨right, acceptedToo⟩ := exists_selectors (lists_arr others)
      fun entry isEntry => Declaration.isSound_iff.1 (soundRight entry isEntry)
    have ofLeft := (selectors_arr_eq_ok_iff.1 accepted).2
    have ofRight := (selectors_arr_eq_ok_iff.1 acceptedToo).2
    refine ⟨left, right, ⟨soundLeft, ofLeft⟩, ⟨soundRight, ofRight⟩,
      SelectorSet.eq_of_mem_iff fun selector => ?_⟩
    rw [SelectorSet.mem_union, areSelectors, ofLeft, ofRight]
    simp only [List.mem_append, or_and_right, exists_or]
  · rintro ⟨left, right, ⟨soundLeft, ofLeft⟩, ⟨soundRight, ofRight⟩, rfl⟩
    refine ⟨⟨soundLeft, soundRight⟩, fun selector => ?_⟩
    rw [SelectorSet.mem_union, ofLeft, ofRight]
    simp only [List.mem_append, or_and_right, exists_or]

/-- Two lists with the same members have the same selectors. -/
theorem selectors_congr (sameMembers : ∀ entry, entry ∈ others ↔ entry ∈ entries)
    (accepted : selectors (.arr entries) = .ok set) : selectors (.arr others) = .ok set := by
  rw [selectors_arr_eq_ok_iff] at accepted ⊢
  simpa only [sameMembers] using accepted

/-- A function without parameters. -/
def plainFunction (name : Text) : Json :=
  .obj [("type", .str "function"), ("name", .str name)]

/-- A function without a name. -/
def unnamedFunction : Json :=
  .obj [("type", .str "function")]

end Abi

end TokenLens
