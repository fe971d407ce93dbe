/-!
# Steps of a system

A system that may go on in several ways, and the number of steps that it takes. Whatever it does, it
comes to an end if no way is longer than some bound and none stops before the end.
-/

namespace TokenLens

variable {σ τ : Type} {Moves : σ → σ → Prop}

/-- A system takes a number of steps from one state to another. -/
inductive Steps (Moves : σ → σ → Prop) : σ → Nat → σ → Prop where
  | refl (state : σ) : Steps Moves state 0 state
  | step {first state next : σ} {count : Nat} (steps : Steps Moves first count state)
      (move : Moves state next) : Steps Moves first (count + 1) next

namespace Steps

/-- One step. -/
theorem single {state next : σ} (move : Moves state next) : Steps Moves state 1 next :=
  .step (.refl state) move

/-- Steps one after the other. -/
theorem trans {earlier later : Nat} {first middle last : σ}
    (begins : Steps Moves first earlier middle) (continues : Steps Moves middle later last) :
    Steps Moves first (earlier + later) last := by
  induction continues with
  | refl => exact begins
  | step _ move inductionHypothesis => exact .step inductionHypothesis move

/-- The steps of a system are steps of another in which its states are found and its moves can be
made. -/
theorem map {Lifted : τ → τ → Prop} (lift : σ → τ)
    (lifts : ∀ state next, Moves state next → Lifted (lift state) (lift next)) {first last : σ}
    {count : Nat} (steps : Steps Moves first count last) :
    Steps Lifted (lift first) count (lift last) := by
  induction steps with
  | refl => exact .refl _
  | step _ move inductionHypothesis => exact .step inductionHypothesis (lifts _ _ move)

end Steps

/-- Whatever a system does from a state, it takes no more steps than the bound, and where it cannot
go on it is at an end. -/
def EndsWithin (Moves : σ → σ → Prop) (IsEnd : σ → Prop) (bound : Nat) (first : σ) : Prop :=
  ∀ count last, Steps Moves first count last →
    count ≤ bound ∧ (IsEnd last ∨ ∃ next, Moves last next)

end TokenLens
