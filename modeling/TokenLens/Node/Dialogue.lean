import TokenLens.Evm.Code
import TokenLens.Node.Note

/-!
# Dialogues with nodes

A `Dialogue` is a computation that may ask nodes and take notes: a tree that branches on what a node
answers. It does not say where answers come from, so the same dialogue can be run with caches,
without them, or against any assignment of answers to queries.
-/

namespace TokenLens

/-- A computation that asks nodes. -/
inductive Dialogue (α : Type) where
  | done (value : α)
  | ask (query : Query) (next : Except ReadFault Json → Dialogue α)
  | note (noted : Note) (next : Dialogue α)

namespace Dialogue

variable {α β : Type}

/-- Continue with the value of a dialogue. -/
def bind : Dialogue α → (α → Dialogue β) → Dialogue β
  | .done value, continuation => continuation value
  | .ask query next, continuation => .ask query fun answer => (next answer).bind continuation
  | .note noted next, continuation => .note noted (next.bind continuation)

instance : Monad Dialogue where
  pure := .done
  bind := bind

/-- A dialogue that goes on with its own value is unchanged. -/
theorem bind_done (dialogue : Dialogue α) : dialogue.bind .done = dialogue := by
  induction dialogue with
  | done value => rfl
  | ask query next inductionHypothesis => simp only [bind, inductionHypothesis]
  | note noted next inductionHypothesis => rw [bind, inductionHypothesis]

/-- The order in which continuations are put together does not matter. -/
theorem bind_bind {γ : Type} (dialogue : Dialogue α) (first : α → Dialogue β)
    (second : β → Dialogue γ) :
    (dialogue.bind first).bind second = dialogue.bind fun value => (first value).bind second := by
  induction dialogue with
  | done value => rfl
  | ask query next inductionHypothesis => simp only [bind, inductionHypothesis]
  | note noted next inductionHypothesis => simp only [bind, inductionHypothesis]

instance : LawfulMonad Dialogue :=
  LawfulMonad.mk' Dialogue bind_done (fun _ _ => rfl) bind_bind

end Dialogue

/-- Why a contract could not be looked up. -/
inductive LookupError where
  | rpc (error : RpcError)
  | broken (cause : Breakdown)
  | code (fault : CodeError)

/-- The failure of a lookup that a failed read causes. -/
def LookupError.ofFault : ReadFault → LookupError
  | .rpc error => .rpc error
  | .broken cause => .broken cause

/-- A dialogue that may fail. -/
abbrev Lookup := ExceptT LookupError Dialogue

namespace Lookup

/-- The outcome of a read, whatever it is. -/
def attempt (query : Query) : Dialogue (Except ReadFault Json) :=
  .ask query .done

/-- The outcome of a read as far as callers expect it; any other failure ends the lookup. -/
def tryRead (query : Query) : Lookup (Except RpcError Json) := do
  match ← (attempt query : Dialogue _) with
  | .ok answer => return .ok answer
  | .error (.rpc error) => return .error error
  | .error (.broken cause) => throw (.broken cause)

/-- The answer to a read; any failure ends the lookup. -/
def read (query : Query) : Lookup Json := do
  match ← tryRead query with
  | .ok answer => return answer
  | .error error => throw (.rpc error)

/-- Take a note. -/
def takeNote (noted : Note) : Lookup Unit :=
  ExceptT.lift (.note noted (.done ()))

/-- The code that a document spells; a lookup ends at any other document. -/
def codeOf (bytecode : Json) : Lookup Code :=
  match Code.ofJson bytecode with
  | .ok code => return code
  | .error fault => throw (.code fault)

end Lookup

end TokenLens
