import TokenLens.Text.Basic

/-!
# Sets of selectors

A selector is a text of hexadecimal digits that names a function or an event. A `SelectorSet` keeps
its members in strictly increasing order of code points, so each set has one representation, its
members are listed in the order in which they are shown, and two sets are equal exactly when they
have the same members.
-/

namespace TokenLens

/-- Put a text at its place in an increasing list that may already hold it. -/
def insertInOrder (selector : Text) : List Text → List Text
  | [] => [selector]
  | first :: rest =>
      if selector.before first then selector :: first :: rest
      else if selector = first then first :: rest
      else first :: insertInOrder selector rest

/-- What an increasing list holds after an insertion. -/
theorem mem_insertInOrder {selector member : Text} {members : List Text} :
    member ∈ insertInOrder selector members ↔ member = selector ∨ member ∈ members := by
  induction members with
  | nil => simp [insertInOrder]
  | cons first rest inductionHypothesis =>
      rw [insertInOrder]
      split
      · simp
      · split
        · simp_all
        · simp only [List.mem_cons, inductionHypothesis]
          grind

/-- Every text of the list comes before all later ones. -/
abbrev Increasing (members : List Text) : Prop :=
  members.Pairwise fun earlier later => earlier.before later = true

/-- Insertion keeps a list increasing. -/
theorem increasing_insertInOrder {selector : Text} {members : List Text}
    (increasing : Increasing members) : Increasing (insertInOrder selector members) := by
  induction members with
  | nil => simp [insertInOrder]
  | cons first rest inductionHypothesis =>
      have firstIsLeast : ∀ {member}, member ∈ rest → first.before member = true :=
        List.rel_of_pairwise_cons increasing
      rw [insertInOrder]
      split
      next before =>
        refine List.pairwise_cons.2 ⟨fun member isMember => ?_, increasing⟩
        rcases List.mem_cons.1 isMember with rfl | isLater
        · exact before
        · exact Text.before_trans before (firstIsLeast isLater)
      next notBefore =>
        split
        next => exact increasing
        next different =>
          refine List.pairwise_cons.2
            ⟨fun member isMember => ?_, inductionHypothesis increasing.of_cons⟩
          rcases mem_insertInOrder.1 isMember with rfl | isLater
          · refine Decidable.byContradiction fun notAfter => different ?_
            exact Text.eq_of_not_before (Bool.eq_false_iff.2 notBefore)
              (Bool.eq_false_iff.2 notAfter)
          · exact firstIsLeast isLater

/-- A finite set of selectors. -/
structure SelectorSet where
  toList : List Text
  increasing : Increasing toList
deriving DecidableEq

namespace SelectorSet

/-- The set without members. -/
def empty : SelectorSet := ⟨[], .nil⟩

/-- A set with one more member. -/
def insert (set : SelectorSet) (selector : Text) : SelectorSet :=
  ⟨insertInOrder selector set.toList, increasing_insertInOrder set.increasing⟩

/-- The members of two sets together. -/
def union (left right : SelectorSet) : SelectorSet :=
  right.toList.foldl insert left

/-- The set of the members of a list. -/
def ofList (selectors : List Text) : SelectorSet :=
  selectors.foldl insert empty

instance : Membership Text SelectorSet where
  mem set selector := selector ∈ set.toList

instance (selector : Text) (set : SelectorSet) : Decidable (selector ∈ set) :=
  inferInstanceAs (Decidable (selector ∈ set.toList))

/-- Two sets with the same list are the same. -/
@[ext]
theorem ext_toList {left right : SelectorSet} (same : left.toList = right.toList) :
    left = right := by
  cases left
  cases right
  cases same
  rfl

/-- Membership is membership in the list. -/
theorem mem_toList {selector : Text} {set : SelectorSet} :
    selector ∈ set.toList ↔ selector ∈ set :=
  Iff.rfl

/-- Nothing is a member of the empty set. -/
@[simp]
theorem not_mem_empty (selector : Text) : selector ∉ empty :=
  List.not_mem_nil

/-- An insertion adds one member. -/
@[simp]
theorem mem_insert {selector member : Text} {set : SelectorSet} :
    member ∈ set.insert selector ↔ member = selector ∨ member ∈ set :=
  mem_insertInOrder

/-- Several insertions add the members of a list. -/
theorem mem_foldl_insert {member : Text} (selectors : List Text) (set : SelectorSet) :
    member ∈ selectors.foldl insert set ↔ member ∈ selectors ∨ member ∈ set := by
  induction selectors generalizing set with
  | nil => simp
  | cons selector rest inductionHypothesis =>
      rw [List.foldl_cons, inductionHypothesis, mem_insert, List.mem_cons]
      grind

/-- The set of a list has the members of the list. -/
@[simp]
theorem mem_ofList {member : Text} {selectors : List Text} :
    member ∈ ofList selectors ↔ member ∈ selectors := by
  simp [ofList, mem_foldl_insert]

/-- A union has the members of both sets. -/
@[simp]
theorem mem_union {member : Text} {left right : SelectorSet} :
    member ∈ left.union right ↔ member ∈ left ∨ member ∈ right := by
  rw [union, mem_foldl_insert, mem_toList, or_comm]

/-- Whether a selector is a member. -/
def contains (set : SelectorSet) (selector : Text) : Bool :=
  set.toList.contains selector

/-- The test for membership agrees with membership. -/
@[simp]
theorem contains_iff {set : SelectorSet} {selector : Text} :
    set.contains selector = true ↔ selector ∈ set := by
  rw [contains, List.contains_iff_mem, mem_toList]

/-- The number of members. -/
def size (set : SelectorSet) : Nat :=
  set.toList.length

/-- Whether there is no member. -/
def isEmpty (set : SelectorSet) : Bool :=
  set.toList.isEmpty

/-- The members of one set that another lacks, in increasing order. -/
def without (set other : SelectorSet) : List Text :=
  set.toList.filter fun selector => !other.contains selector

/-- What one set has and another lacks. -/
@[simp]
theorem mem_without {set other : SelectorSet} {selector : Text} :
    selector ∈ set.without other ↔ selector ∈ set ∧ selector ∉ other := by
  simp [without, List.mem_filter, mem_toList, ← contains_iff]

/-- The number of members with a property. -/
def count (set : SelectorSet) (holds : Text → Bool) : Nat :=
  set.toList.countP holds

/-- Whether every member has a property. -/
def all (set : SelectorSet) (holds : Text → Bool) : Bool :=
  set.toList.all holds

end SelectorSet

end TokenLens
