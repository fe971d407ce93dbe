import TokenLens.Node.Cache
import TokenLens.Node.Dialogue

/-!
# Running dialogues

A session answers the queries of a dialogue from its caches, and sends a request for each query that
no cache can answer. The exchange that results holds everything that can be seen of it.
-/

namespace TokenLens

/-- What comes of a dialogue: its value, the caches after it, the queries for which a request was
sent, and the notes, each in order. -/
structure Exchange (α : Type) where
  value : α
  caches : Caches
  sent : List Query
  notes : List Note

namespace Dialogue

variable {α : Type}

/-- Run a dialogue against a node, with the caches of a session. -/
def run (node : Query → PostOutcome) : Dialogue α → Caches → Exchange α
  | .done value, caches => ⟨value, caches, [], []⟩
  | .ask query next, caches =>
      match caches.consult query with
      | some (answer, caches) => (next (.ok answer)).run node caches
      | none =>
          match (node query).result with
          | .ok answer =>
              let exchange := (next (.ok answer)).run node (caches.remember query answer)
              { exchange with sent := query :: exchange.sent }
          | .error fault =>
              let exchange := (next (.error fault)).run node caches
              { exchange with sent := query :: exchange.sent }
  | .note noted next, caches =>
      let exchange := next.run node caches
      { exchange with notes := noted :: exchange.notes }

/-- The value of a dialogue when every query is answered by the given function. -/
def evaluate (answers : Query → Except ReadFault Json) : Dialogue α → α
  | .done value => value
  | .ask query next => (next (answers query)).evaluate answers
  | .note _ next => next.evaluate answers

/-- To evaluate a dialogue that goes on is to evaluate it and then what it goes on with. -/
theorem evaluate_bind {β : Type} (answers : Query → Except ReadFault Json)
    (dialogue : Dialogue α) (continuation : α → Dialogue β) :
    (dialogue.bind continuation).evaluate answers =
      (continuation (dialogue.evaluate answers)).evaluate answers := by
  induction dialogue with
  | done value => rfl
  | ask query next inductionHypothesis => exact inductionHypothesis (answers query)
  | note noted next inductionHypothesis => exact inductionHypothesis

end Dialogue

end TokenLens
