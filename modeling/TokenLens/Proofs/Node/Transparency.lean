import TokenLens.Proofs.Node.Caching

/-!
# Caches that cannot be told from none

Before a node whose replies are a function of the query, a dialogue that is run with caches ends as
it does without any, and takes the same notes. The caches only spare requests: those that are sent
are some of the requests that would be sent without caches, in the same order. This holds as long as
the caches reflect what the node replies, which a run preserves.
-/

namespace TokenLens

variable {α : Type}

/-- An exchange that sends some of the requests of another, in the same order, and is equal to it in
all else that can be seen. -/
structure Exchange.Spares (exchange plain : Exchange α) : Prop where
  value : exchange.value = plain.value
  notes : exchange.notes = plain.notes
  sent : exchange.sent.Sublist plain.sent

namespace Dialogue

/-- Run a dialogue against a node without any cache: a request is sent for every query. -/
def runUncached (node : Query → PostOutcome) : Dialogue α → Exchange α
  | .done value => ⟨value, .empty, [], []⟩
  | .ask query next =>
      let exchange := (next (node query).result).runUncached node
      { exchange with sent := query :: exchange.sent }
  | .note noted next =>
      let exchange := next.runUncached node
      { exchange with notes := noted :: exchange.notes }

/-- Without caches a dialogue ends in its value under the replies of the node. -/
theorem value_runUncached (node : Query → PostOutcome) (dialogue : Dialogue α) :
    (dialogue.runUncached node).value = dialogue.evaluate fun query => (node query).result := by
  induction dialogue with
  | done value => rfl
  | ask query next inductionHypothesis => exact inductionHypothesis _
  | note noted next inductionHypothesis => exact inductionHypothesis

/-- Without caches a run is a conversation in which a request is sent for every reading. -/
theorem takesPlace_runUncached (node : Query → PostOutcome) (dialogue : Dialogue α) :
    ∃ readings, dialogue.TakesPlace readings (dialogue.runUncached node).value ∧
      readings.map (·.query) = (dialogue.runUncached node).sent := by
  induction dialogue with
  | done value => exact ⟨[], .done value, rfl⟩
  | ask query next inductionHypothesis =>
      obtain ⟨readings, rest, areSent⟩ := inductionHypothesis (node query).result
      exact ⟨_, .ask rest, congrArg (query :: ·) areSent⟩
  | note noted next inductionHypothesis =>
      obtain ⟨readings, rest, areSent⟩ := inductionHypothesis
      exact ⟨readings, .note rest, areSent⟩

variable {node : Query → PostOutcome}

/-- A run with caches that reflect the node only spares requests, and its caches go on reflecting
the node. -/
theorem run_spares (dialogue : Dialogue α) {caches : Caches}
    (reflects : caches.Reflects fun query => (node query).result) :
    (dialogue.run node caches).Spares (dialogue.runUncached node) ∧
      (dialogue.run node caches).caches.Reflects fun query => (node query).result := by
  induction dialogue generalizing caches with
  | done value => exact ⟨⟨rfl, rfl, .refl _⟩, reflects⟩
  | ask query next inductionHypothesis =>
      rw [run, runUncached]
      split
      next answer after hit =>
        obtain ⟨isAnswer, afterReflects⟩ := reflects.consult hit
        obtain ⟨spares, keeps⟩ := inductionHypothesis (.ok answer) afterReflects
        rw [isAnswer]
        exact ⟨⟨spares.value, spares.notes, spares.sent.cons query⟩, keeps⟩
      next miss =>
        split
        next answer isAnswer =>
          obtain ⟨spares, keeps⟩ :=
            inductionHypothesis (.ok answer) (reflects.remember isAnswer)
          rw [isAnswer]
          exact ⟨⟨spares.value, spares.notes, spares.sent.cons_cons query⟩, keeps⟩
        next fault isFault =>
          obtain ⟨spares, keeps⟩ := inductionHypothesis (.error fault) reflects
          rw [isFault]
          exact ⟨⟨spares.value, spares.notes, spares.sent.cons_cons query⟩, keeps⟩
  | note noted next inductionHypothesis =>
      obtain ⟨spares, keeps⟩ := inductionHypothesis reflects
      exact ⟨⟨spares.value, congrArg (noted :: ·) spares.notes, spares.sent⟩, keeps⟩

/-- A run with caches that reflect the node ends in the value under the replies of the node. -/
theorem value_run (dialogue : Dialogue α) {caches : Caches}
    (reflects : caches.Reflects fun query => (node query).result) :
    (dialogue.run node caches).value = dialogue.evaluate fun query => (node query).result :=
  (dialogue.run_spares reflects).1.value.trans (value_runUncached node dialogue)

end Dialogue

end TokenLens
