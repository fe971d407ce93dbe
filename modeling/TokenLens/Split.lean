/-!
# Lists in pieces

A list is cut at the first or the last occurrence of a mark, or split at every occurrence. The mark
belongs to no piece.
-/

namespace TokenLens.Split

variable {α : Type} [DecidableEq α]

/-- What stands before the first mark, and what stands after it. -/
def atFirst (mark : α) (items : List α) : List α × List α :=
  (items.takeWhile (· ≠ mark), (items.dropWhile (· ≠ mark)).drop 1)

/-- What stands before the last mark, and what stands after it; everything if there is none. -/
def atLast (mark : α) (items : List α) : List α × List α :=
  (((items.reverse.dropWhile (· ≠ mark)).drop 1).reverse,
   (items.reverse.takeWhile (· ≠ mark)).reverse)

/-- The pieces between the marks, empty ones included. -/
def atAll (isMark : α → Bool) : List α → List (List α)
  | [] => [[]]
  | item :: rest =>
      if isMark item then [] :: atAll isMark rest
      else match atAll isMark rest with
        | first :: others => (item :: first) :: others
        | [] => [[item]]

end TokenLens.Split
