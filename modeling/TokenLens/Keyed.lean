import TokenLens.Text.Basic

/-!
# Pairs in order of arrival

Lists of keyed values in which a key keeps the place of its first arrival and takes the value of
its last. They hold the members of documents and the names of selectors.
-/

namespace TokenLens.Keyed

variable {α : Type}

/-- Put a value under a key: in the place of the key if it is there, at the end if it is new. -/
def insert (key : Text) (value : α) : List (Text × α) → List (Text × α)
  | [] => [(key, value)]
  | (present, old) :: rest =>
      if present = key then (key, value) :: rest else (present, old) :: insert key value rest

/-- The value under a key. -/
def get? (key : Text) : List (Text × α) → Option α
  | [] => none
  | (present, value) :: rest => if present = key then some value else get? key rest

/-- The pairs of a list put in one after the other. -/
def ofList (pairs : List (Text × α)) : List (Text × α) :=
  pairs.foldl (fun kept pair => insert pair.1 pair.2 kept) []

/-- The value under a key that was just put in. -/
@[simp]
theorem get?_insert_self (key : Text) (value : α) (pairs : List (Text × α)) :
    get? key (insert key value pairs) = some value := by
  induction pairs with
  | nil => simp [insert, get?]
  | cons pair rest inductionHypothesis =>
      by_cases same : pair.1 = key <;> simp [insert, get?, same, inductionHypothesis]

/-- An insertion changes nothing under other keys. -/
theorem get?_insert_of_ne {key other : Text} (different : other ≠ key) (value : α)
    (pairs : List (Text × α)) :
    get? other (insert key value pairs) = get? other pairs := by
  induction pairs with
  | nil => simp [insert, get?, Ne.symm different]
  | cons pair rest inductionHypothesis =>
      by_cases same : pair.1 = key
      · simp [insert, get?, same, Ne.symm different]
      · rw [insert, if_neg same, get?, get?, inductionHypothesis]

end TokenLens.Keyed
