import TokenLens.Proofs.Node.Conversation

/-!
# What caches remember

A cache remembers nothing but answers that it was given, so a relation between queries and answers
that holds of each of them when it arrives holds of all that is remembered (`Caches.Only`). A cache
*reflects* an assignment of answers to queries when that relation is the assignment. Consulting and
remembering keep this, so a run against a node whose replies are a function of the query is a
conversation in which every reading holds the reply of the node, whether it was sent for or
remembered.
-/

namespace TokenLens

namespace Cache

/-- Every answer that a cache remembers stands in a relation to its query. -/
def Only (holds : Query → Json → Prop) (cache : Cache) : Prop :=
  ∀ entry ∈ cache.entries, holds entry.1 entry.2

/-- Everything that a cache remembers is what the assignment says. -/
def Reflects (answers : Query → Except ReadFault Json) (cache : Cache) : Prop :=
  ∀ entry ∈ cache.entries, answers entry.1 = .ok entry.2

variable {holds : Query → Json → Prop} {cache : Cache} {query : Query} {answer : Json}

/-- The entries for other queries are in the relation that all entries are in. -/
theorem Only.others (only : cache.Only holds) :
    ∀ entry ∈ cache.others query, holds entry.1 entry.2 := by
  intro entry isOther
  exact only entry (List.mem_filter.1 isOther).1

/-- What is found in a cache is in the relation that all entries are in, and so is what stays. -/
theorem Only.consult {after : Cache} (only : cache.Only holds)
    (hit : cache.consult query = some (answer, after)) :
    holds query answer ∧ after.Only holds := by
  obtain ⟨entry, isFound, same⟩ := Option.map_eq_some_iff.1 hit
  obtain ⟨rfl, rfl⟩ := Prod.mk.inj same
  have isEntry : entry ∈ cache.entries := List.mem_of_find?_eq_some isFound
  have isAsked : entry.1 = query := by simpa using List.find?_some isFound
  refine ⟨isAsked ▸ only entry isEntry, ?_⟩
  exact List.forall_mem_cons.2 ⟨only entry isEntry, only.others⟩

/-- The entries of a cache stay in a relation when an answer that is in it is remembered. -/
theorem Only.remember (only : cache.Only holds) (isAnswer : holds query answer) :
    (cache.remember query answer).Only holds := by
  intro entry isEntry
  rcases List.mem_cons.1 (List.mem_of_mem_take isEntry) with rfl | isOther
  · exact isAnswer
  · exact only.others entry isOther

end Cache

namespace Caches

/-- Every answer that the three caches remember stands in a relation to its query. -/
structure Only (holds : Query → Json → Prop) (caches : Caches) : Prop where
  code : caches.code.Only holds
  storage : caches.storage.Only holds
  call : caches.call.Only holds

/-- Everything that the three caches remember is what the assignment says. -/
structure Reflects (answers : Query → Except ReadFault Json) (caches : Caches) : Prop where
  code : caches.code.Reflects answers
  storage : caches.storage.Reflects answers
  call : caches.call.Reflects answers

variable {holds : Query → Json → Prop} {answers : Query → Except ReadFault Json} {caches : Caches}
  {query : Query} {answer : Json}

/-- Caches that remember nothing stand in every relation. -/
theorem only_empty (holds : Query → Json → Prop) : empty.Only holds :=
  ⟨List.forall_mem_nil _, List.forall_mem_nil _, List.forall_mem_nil _⟩

/-- The cache that a query uses is in the relation that all caches are in. -/
theorem Only.cacheFor (only : caches.Only holds) (query : Query) :
    (caches.cacheFor query).Only holds := by
  unfold Caches.cacheFor
  split
  · exact only.code
  · exact only.storage
  · exact only.call

/-- One cache may be replaced by another that is in the same relation. -/
theorem Only.replaceFor {cache : Cache} (only : caches.Only holds)
    (replacement : cache.Only holds) (query : Query) :
    (caches.replaceFor query cache).Only holds := by
  unfold Caches.replaceFor
  split
  · exact { only with code := replacement }
  · exact { only with storage := replacement }
  · exact { only with call := replacement }

/-- What is found in the caches is in the relation that they are in, and so is what stays. -/
theorem Only.consult {after : Caches} (only : caches.Only holds)
    (hit : caches.consult query = some (answer, after)) :
    holds query answer ∧ after.Only holds := by
  obtain ⟨⟨found, cache⟩, cacheHit, same⟩ := Option.map_eq_some_iff.1 hit
  obtain ⟨rfl, rfl⟩ := Prod.mk.inj same
  obtain ⟨isAnswer, cacheOnly⟩ := (only.cacheFor query).consult cacheHit
  exact ⟨isAnswer, only.replaceFor cacheOnly query⟩

/-- Caches stay in a relation when an answer that is in it is remembered. -/
theorem Only.remember (only : caches.Only holds) (isAnswer : holds query answer) :
    (caches.remember query answer).Only holds :=
  only.replaceFor ((only.cacheFor query).remember isAnswer) query

/-- To reflect an assignment is to remember only what it says. -/
theorem reflects_iff_only :
    caches.Reflects answers ↔ caches.Only fun query answer => answers query = .ok answer :=
  ⟨fun reflects => ⟨reflects.code, reflects.storage, reflects.call⟩,
    fun only => ⟨only.code, only.storage, only.call⟩⟩

/-- Caches that remember nothing reflect every assignment. -/
theorem reflects_empty (answers : Query → Except ReadFault Json) : empty.Reflects answers :=
  reflects_iff_only.2 (only_empty _)

/-- Caches that reflect an assignment answer as the assignment does, and go on reflecting it. -/
theorem Reflects.consult {after : Caches} (reflects : caches.Reflects answers)
    (hit : caches.consult query = some (answer, after)) :
    answers query = .ok answer ∧ after.Reflects answers :=
  ((reflects_iff_only.1 reflects).consult hit).imp_right reflects_iff_only.2

/-- Caches go on reflecting an assignment when they remember an answer of it. -/
theorem Reflects.remember (reflects : caches.Reflects answers)
    (isAnswer : answers query = .ok answer) : (caches.remember query answer).Reflects answers :=
  reflects_iff_only.2 ((reflects_iff_only.1 reflects).remember isAnswer)

end Caches

namespace Dialogue

variable {α : Type}

/-- A run against a node whose replies are a function of the query is a conversation in which every
reading holds the reply of the node. -/
theorem takesPlace_run (node : Query → PostOutcome) (dialogue : Dialogue α) {caches : Caches}
    (reflects : caches.Reflects fun query => (node query).result) :
    ∃ readings, dialogue.TakesPlace readings (dialogue.run node caches).value ∧
      ∀ reading ∈ readings, reading.answer = (node reading.query).result := by
  induction dialogue generalizing caches with
  | done value => exact ⟨[], .done value, by simp⟩
  | ask query next inductionHypothesis =>
      rw [run]
      split
      next answer after hit =>
        obtain ⟨isAnswer, afterReflects⟩ := reflects.consult hit
        obtain ⟨readings, rest, replied⟩ := inductionHypothesis (.ok answer) afterReflects
        exact ⟨_, .ask rest, List.forall_mem_cons.2 ⟨isAnswer.symm, replied⟩⟩
      next miss =>
        split
        next answer isAnswer =>
          obtain ⟨readings, rest, replied⟩ :=
            inductionHypothesis (.ok answer) (reflects.remember isAnswer)
          exact ⟨_, .ask rest, List.forall_mem_cons.2 ⟨isAnswer.symm, replied⟩⟩
        next fault isFault =>
          obtain ⟨readings, rest, replied⟩ := inductionHypothesis (.error fault) reflects
          exact ⟨_, .ask rest, List.forall_mem_cons.2 ⟨isFault.symm, replied⟩⟩
  | note noted next inductionHypothesis =>
      obtain ⟨readings, rest, replied⟩ := inductionHypothesis reflects
      exact ⟨readings, .note rest, replied⟩

end Dialogue

end TokenLens
