import TokenLens.Proofs.Node.Lookup
import TokenLens.Proofs.Node.Transparency

/-!
# Evaluating lookups

Before a node whose replies are a function of the query, a lookup has one value, whatever is
remembered. `Lookup.outcome` is that value; it goes through the parts of a lookup like an ordinary
computation that may fail, so it is computed part by part.
-/

namespace TokenLens

variable {α β : Type}

/-- A dialogue that starts with an attempt at a query goes on with the answer. -/
theorem Dialogue.evaluate_attempt_bind (answers : Query → Except ReadFault Json) (query : Query)
    (continuation : Except ReadFault Json → Dialogue α) :
    (Lookup.attempt query >>= continuation).evaluate answers =
      (continuation (answers query)).evaluate answers :=
  rfl

namespace Lookup

/-- The value of a lookup when every query is answered by the given function. -/
def outcome (answers : Query → Except ReadFault Json) (lookup : Lookup α) :
    Except LookupError α :=
  Dialogue.evaluate answers lookup

/-- A run with caches that reflect the node ends in the value under the replies of the node. -/
theorem value_run {node : Query → PostOutcome} {caches : Caches}
    (reflects : caches.Reflects fun query => (node query).result) (lookup : Lookup α) :
    (Dialogue.run node lookup caches).value =
      lookup.outcome fun query => (node query).result :=
  Dialogue.value_run lookup reflects

variable (answers : Query → Except ReadFault Json)

@[simp]
theorem outcome_pure (value : α) : (pure value : Lookup α).outcome answers = .ok value :=
  rfl

@[simp]
theorem outcome_throw (error : LookupError) :
    (throw error : Lookup α).outcome answers = .error error :=
  rfl

@[simp]
theorem outcome_bind (lookup : Lookup α) (continuation : α → Lookup β) :
    (lookup >>= continuation).outcome answers =
      lookup.outcome answers >>= fun value => (continuation value).outcome answers := by
  refine (Dialogue.evaluate_bind answers lookup _).trans ?_
  change Dialogue.evaluate answers (ExceptT.bindCont continuation (lookup.outcome answers)) = _
  cases lookup.outcome answers with
  | ok value => rfl
  | error error => rfl

/-- A dialogue that a lookup starts with never fails. -/
theorem outcome_liftM_bind (dialogue : Dialogue α) (continuation : α → Lookup β) :
    ((liftM dialogue : Lookup α) >>= continuation).outcome answers =
      (continuation (dialogue.evaluate answers)).outcome answers := by
  have lifted : (liftM dialogue : Lookup α).outcome answers = .ok (dialogue.evaluate answers) :=
    Dialogue.evaluate_bind answers dialogue _
  rw [outcome_bind, lifted]
  rfl

@[simp]
theorem outcome_takeNote (noted : Note) : (takeNote noted).outcome answers = .ok () :=
  rfl

@[simp]
theorem outcome_tryRead (query : Query) :
    (tryRead query).outcome answers = ofAnswer (answers query) := by
  unfold tryRead
  rw [outcome_liftM_bind]
  cases answered : answers query with
  | ok document => simp [attempt, Dialogue.evaluate, answered, ofAnswer]
  | error fault => cases fault <;> simp [attempt, Dialogue.evaluate, answered, ofAnswer]

@[simp]
theorem outcome_codeOf (document : Json) :
    (codeOf document).outcome answers = (Code.ofJson document).mapError .code := by
  unfold codeOf
  cases Code.ofJson document with
  | ok code => rfl
  | error fault => rfl

/-- The breakdown that an outcome is, if it is one. -/
def breakdown? : Except LookupError α → Option Breakdown
  | .error (.broken cause) => some cause
  | _ => none

/-- An outcome is the breakdown that it is. -/
theorem eq_of_breakdown? {outcome : Except LookupError α} {cause : Breakdown}
    (isBroken : breakdown? outcome = some cause) : outcome = .error (.broken cause) := by
  unfold breakdown? at isBroken
  split at isBroken
  next => rw [Option.some.inj isBroken]
  next => cases isBroken

end Lookup

end TokenLens
