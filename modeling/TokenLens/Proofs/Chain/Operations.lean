import Mathlib.Data.List.Forall2
import TokenLens.Chain.Walk
import TokenLens.Proofs.Node.Transparency

/-!
# Sessions of operations

A session is a sequence of operations that share their caches: single reads, searches for targets,
walks, judgements, and the removal of all that is remembered. Before a node whose replies are a
function of the query, nothing that a session tells depends on the caches, however long it is and
whatever is evicted or removed on the way; they only spare requests.
-/

namespace TokenLens

/-- Something that is done in a session. -/
inductive Operation where
  | read (query : Query)
  | forget
  | targets (url address : Text) (bytecode : Option Json)
  | resolve (url address : Text) (bytecode : Json) (bound : Int) (registry : Registry)
  | judge (url address : Text) (bytecode : Option Json) (bound : Int) (registry : Registry)

namespace Operation

/-- What an operation that succeeds results in. -/
inductive Result where
  | document (answer : Json)
  | forgotten
  | targets (found : List Text)
  | resolution (resolution : Resolution)
  | standard (label : Option Text)

/-- The lookup that an operation consists of. To forget is to look up nothing. -/
def lookup : Operation → Lookup Result
  | read query => return .document (← Lookup.read query)
  | forget => return .forgotten
  | targets url address bytecode => return .targets (← Proxy.targets url address bytecode)
  | resolve url address bytecode bound registry => do
      let code ← Lookup.codeOf bytecode
      return .resolution (← Chain.resolve url address code bound registry)
  | judge url address bytecode bound registry =>
      return .standard (← Chain.standardAt url address bytecode bound registry)

/-- The caches that an operation leaves, given those after its lookup. -/
def leaves : Operation → Caches → Caches
  | forget, _ => .empty
  | _, caches => caches

/-- Perform an operation with the caches of a session. -/
def perform (node : Query → PostOutcome) (operation : Operation) (caches : Caches) :
    Exchange (Except LookupError Result) :=
  let exchange := Dialogue.run node operation.lookup caches
  { exchange with caches := operation.leaves exchange.caches }

/-- Perform operations one after the other. -/
def performAll (node : Query → PostOutcome) :
    List Operation → Caches → List (Exchange (Except LookupError Result))
  | [], _ => []
  | operation :: rest, caches =>
      let exchange := operation.perform node caches
      exchange :: performAll node rest exchange.caches

/-- Perform operations one after the other without any cache. -/
def performAllUncached (node : Query → PostOutcome) (operations : List Operation) :
    List (Exchange (Except LookupError Result)) :=
  operations.map fun operation => Dialogue.runUncached node operation.lookup

variable {node : Query → PostOutcome} {caches : Caches}

/-- What an operation leaves reflects the node if the caches after its lookup do. -/
theorem reflects_leaves (operation : Operation)
    (reflects : caches.Reflects fun query => (node query).result) :
    (operation.leaves caches).Reflects fun query => (node query).result := by
  cases operation with
  | forget => exact Caches.reflects_empty _
  | read query => exact reflects
  | targets url address bytecode => exact reflects
  | resolve url address bytecode bound registry => exact reflects
  | judge url address bytecode bound registry => exact reflects

/-- An operation with caches only spares requests, and leaves caches that reflect the node. -/
theorem perform_spares (operation : Operation)
    (reflects : caches.Reflects fun query => (node query).result) :
    (operation.perform node caches).Spares (Dialogue.runUncached node operation.lookup) ∧
      (operation.perform node caches).caches.Reflects fun query => (node query).result := by
  obtain ⟨spares, keeps⟩ := Dialogue.run_spares operation.lookup reflects
  exact ⟨⟨spares.value, spares.notes, spares.sent⟩, operation.reflects_leaves keeps⟩

/-- Each operation of a session only spares requests. -/
theorem performAll_spares (operations : List Operation)
    (reflects : caches.Reflects fun query => (node query).result) :
    List.Forall₂ Exchange.Spares (performAll node operations caches)
      (performAllUncached node operations) := by
  induction operations generalizing caches with
  | nil => exact .nil
  | cons operation rest inductionHypothesis =>
      obtain ⟨spares, keeps⟩ := operation.perform_spares reflects
      exact .cons spares (inductionHypothesis keeps)

/-- Exchanges that spare requests one by one tell the same together. -/
theorem eq_of_spares {α : Type} {exchanges plain : List (Exchange α)}
    (spare : List.Forall₂ Exchange.Spares exchanges plain) :
    exchanges.map (·.value) = plain.map (·.value) ∧ exchanges.map (·.notes) = plain.map (·.notes) ∧
      (exchanges.flatMap (·.sent)).Sublist (plain.flatMap (·.sent)) := by
  induction spare with
  | nil => exact ⟨rfl, rfl, .refl _⟩
  | cons spares _ inductionHypothesis =>
      obtain ⟨values, notes, sent⟩ := inductionHypothesis
      refine ⟨?_, ?_, ?_⟩
      · rw [List.map_cons, List.map_cons, spares.value, values]
      · rw [List.map_cons, List.map_cons, spares.notes, notes]
      · rw [List.flatMap_cons, List.flatMap_cons]
        exact spares.sent.append sent

/-- A session that starts with nothing remembered has the outcomes and the notes that it would have
without any cache, and the requests that it sends are some of those, in the same order. -/
theorem performAll_transparent (node : Query → PostOutcome) (operations : List Operation) :
    let cached := performAll node operations .empty
    let uncached := performAllUncached node operations
    cached.map (·.value) = uncached.map (·.value) ∧
      cached.map (·.notes) = uncached.map (·.notes) ∧
      (cached.flatMap (·.sent)).Sublist (uncached.flatMap (·.sent)) :=
  eq_of_spares (performAll_spares operations (Caches.reflects_empty _))

end Operation

end TokenLens
