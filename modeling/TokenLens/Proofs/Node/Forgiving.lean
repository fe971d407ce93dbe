import TokenLens.Proofs.Node.Proper

/-!
# Forgiving nodes

A node whose replies may depend on all queries before them, and the same node once it is made
*forgiving*: where it fails to tell code, or states what spells no code, the forgiving node replies
that there is no code. Before the one a lookup may end at a document that spells no code; before the
other it goes on. `Forgiven` relates the two conversations, and it is kept when lookups are put
together (`Lookup.IsForgiven.bind`), so it holds of a long lookup because it holds of each fetch.
-/

namespace TokenLens

/-- Whether no code can be had from an answer to a query for code: the node failed to tell, as
callers expect, or it stated what spells no code. -/
def lacksCode : Except ReadFault Json → Bool
  | .ok document => (Code.ofJson document).toOption.isNone
  | .error (.rpc _) => true
  | .error (.broken _) => false

/-- The answer that stands for another to the same query: no code where no code can be had. -/
def forgivenAnswer (query : Query) (answer : Except ReadFault Json) : Except ReadFault Json :=
  if query.read.isCode && lacksCode answer then .ok (.str "0x") else answer

/-- The reading that stands for another. -/
def Reading.forgiven (reading : Reading) : Reading :=
  ⟨reading.query, forgivenAnswer reading.query reading.answer⟩

/-- A reply that states that there is no code. -/
def emptyReply : PostOutcome :=
  .answered 200 "\x7b\"result\":\"0x\"\x7d"

/-- The result that the reply states. -/
theorem result_emptyReply : emptyReply.result = .ok (.str "0x") := by
  refine eq_of_resultText? ?_
  decide +kernel

/-- A node that replies as another does, but that there is no code where no code can be had. -/
def forgiving (node : List Query → Query → PostOutcome) (past : List Query) (query : Query) :
    PostOutcome :=
  if query.read.isCode && lacksCode (node past query).result then emptyReply else node past query

/-- The answers of a node whose replies depend on the queries before them. -/
def answersOf (node : List Query → Query → PostOutcome) (past : List Reading) (query : Query) :
    Except ReadFault Json :=
  (node (past.map (·.query)) query).result

/-- Readings whose code, where it was stated, is spelled. -/
def AreSpelled (readings : List Reading) : Prop :=
  ∀ reading ∈ readings, reading.isCode = true →
    ∀ document, reading.answer = .ok document → ∃ code, Code.ofJson document = .ok code

variable {node : List Query → Query → PostOutcome} {past readings : List Reading}

/-- A reading that asks for no code stands for itself. -/
theorem Reading.forgiven_eq_self {reading : Reading} (noCode : reading.isCode = false) :
    reading.forgiven = reading := by
  obtain ⟨query, answer⟩ := reading
  change query.read.isCode = false at noCode
  simp [forgiven, forgivenAnswer, noCode]

/-- Readings that ask for no code stand for themselves. -/
theorem map_forgiven_eq_self (noCode : codeReadings readings = []) :
    readings.map Reading.forgiven = readings := by
  have others : ∀ reading ∈ readings, reading.forgiven = reading := fun reading isRead =>
    Reading.forgiven_eq_self (Bool.eq_false_iff.2 (List.filter_eq_nil_iff.1 noCode reading isRead))
  exact (List.map_congr_left others).trans (List.map_id readings)

/-- What stands for readings has their queries. -/
theorem map_query_forgiven (readings : List Reading) :
    (readings.map Reading.forgiven).map (·.query) = readings.map (·.query) := by
  rw [List.map_map]
  rfl

/-- The answers of a forgiving node stand for those of the node itself. -/
theorem answersOf_forgiving (past : List Reading) (query : Query) :
    answersOf (forgiving node) (past.map Reading.forgiven) query =
      forgivenAnswer query (answersOf node past query) := by
  rw [answersOf, map_query_forgiven, forgiving, forgivenAnswer, answersOf]
  split
  · exact result_emptyReply
  · rfl

/-- A document from which code can be had spells it. -/
theorem spelled_of_hasCode {document : Json} (hasCode : lacksCode (.ok document) = false) :
    ∃ code, Code.ofJson document = .ok code := by
  cases spelled : Code.ofJson document with
  | ok code => exact ⟨code, rfl⟩
  | error fault => simp [lacksCode, spelled, Except.toOption] at hasCode

/-- Where the error members of a node are objects, the node made forgiving is proper. -/
theorem isProper_forgiving
    (objects : ∀ past query, (node past query).result ≠ .error (.broken .malformedErrorMember)) :
    IsProper fun past query => forgiving node (past.map (·.query)) query where
  errorMembers := by
    intro past query broken
    dsimp only [forgiving] at broken
    split at broken
    · rw [result_emptyReply] at broken
      cases broken
    · exact objects _ query broken
  spelled := by
    intro past query document isCode stated
    dsimp only [forgiving] at stated
    split at stated
    next =>
      rw [result_emptyReply] at stated
      obtain rfl := Except.ok.inj stated
      exact ⟨.empty, rfl⟩
    next keeps =>
      have hasCode : lacksCode (node (past.map (·.query)) query).result = false := by
        simpa [isCode] using keeps
      rw [stated] at hasCode
      exact spelled_of_hasCode hasCode

/-- A conversation with a node, and the one with the node made forgiving: they are the same but for
the answers that were replaced, unless the former ends at a document that spells no code; then the
latter goes on from there. -/
inductive Forgiven {α : Type} :
    List Reading × Except LookupError α → List Reading × Except LookupError α → Prop where
  | alike {readings : List Reading} {outcome : Except LookupError α}
      (spelled : AreSpelled readings) :
      Forgiven (readings, outcome) (readings.map Reading.forgiven, outcome)
  | refused {before later : List Reading} {last : Reading} {document : Json} {fault : CodeError}
      {outcome : Except LookupError α} (spelled : AreSpelled before) (isCode : last.isCode = true)
      (stated : last.answer = .ok document) (misspelled : Code.ofJson document = .error fault) :
      Forgiven (before ++ [last], .error (.code fault))
        ((before ++ [last]).map Reading.forgiven ++ later, outcome)

/-- What stands for a reading of a node was read of the node made forgiving. -/
theorem Forgiven.mem {α : Type} {actual lenient : List Reading × Except LookupError α}
    (forgiven : Forgiven actual lenient) {reading : Reading} (isRead : reading ∈ actual.1) :
    reading.forgiven ∈ lenient.1 := by
  cases forgiven with
  | alike spelled => exact List.mem_map_of_mem isRead
  | refused spelled isCode stated misspelled =>
      exact List.mem_append_left _ (List.mem_map_of_mem isRead)

/-- A longer conversation whose first part spelled all code. -/
theorem Forgiven.prepend {α : Type} {earlier : List Reading}
    {actual lenient : List Reading × Except LookupError α} (rest : Forgiven actual lenient)
    (spelled : AreSpelled earlier) :
    Forgiven (earlier ++ actual.1, actual.2)
      (earlier.map Reading.forgiven ++ lenient.1, lenient.2) := by
  cases rest with
  | alike spelledLater =>
      rw [← List.map_append]
      exact .alike (List.forall_mem_append.2 ⟨spelled, spelledLater⟩)
  | refused spelledLater isCode stated misspelled =>
      dsimp only
      rw [← List.append_assoc (earlier.map _), ← List.map_append, ← List.append_assoc earlier]
      exact .refused (List.forall_mem_append.2 ⟨spelled, spelledLater⟩) isCode stated misspelled

namespace Dialogue

variable {α : Type}

/-- A dialogue that asks for no code is held with the forgiving node as with the node itself. -/
theorem converse_forgiving {dialogue : Dialogue α}
    (noCode : ∀ readings value, dialogue.TakesPlace readings value → codeReadings readings = [])
    (past : List Reading) :
    dialogue.converse (answersOf (forgiving node)) (past.map Reading.forgiven) =
      dialogue.converse (answersOf node) past := by
  induction dialogue generalizing past with
  | done value => rfl
  | ask query next inductionHypothesis =>
      -- Every answer goes on to some conversation, so the query itself asks for no code.
      have others (answer : Except ReadFault Json) {readings : List Reading} {value : α}
          (rest : (next answer).TakesPlace readings value) :
          query.read.isCode = false ∧ codeReadings readings = [] := by
        have nothing := List.filter_eq_nil_iff.1 (noCode _ value (.ask rest))
        refine ⟨Bool.eq_false_iff.2 (nothing ⟨query, answer⟩ List.mem_cons_self), ?_⟩
        exact List.filter_eq_nil_iff.2 fun reading isRead =>
          nothing reading (List.mem_cons_of_mem _ isRead)
      let reading : Reading := ⟨query, answersOf node past query⟩
      have isNoCode : query.read.isCode = false :=
        (others reading.answer (takesPlace_converse (answersOf node) past _)).1
      have stays : reading.forgiven = reading := Reading.forgiven_eq_self isNoCode
      have same : answersOf (forgiving node) (past.map Reading.forgiven) query = reading.answer :=
        (answersOf_forgiving past query).trans (congrArg Reading.answer stays)
      have later := inductionHypothesis reading.answer
        (fun readings value rest => (others reading.answer rest).2) (past ++ [reading])
      rw [List.map_append, List.map_singleton, stays] at later
      simp only [converse, same, later, reading]
  | note noted next inductionHypothesis =>
      exact inductionHypothesis (fun readings value rest => noCode readings value (.note rest)) past

end Dialogue

namespace Lookup

variable {α β : Type}

/-- What comes of a lookup with a node whose answers may depend on all that was read before. -/
def converse (answers : List Reading → Query → Except ReadFault Json) (past : List Reading)
    (lookup : Lookup α) : List Reading × Except LookupError α :=
  Dialogue.converse answers past lookup

variable {answers : List Reading → Query → Except ReadFault Json} {lookup : Lookup α}

/-- A lookup that goes on after another. -/
theorem converse_bind_of_ok {value : α}
    (goesOn : lookup.converse answers past = (readings, .ok value))
    (continuation : α → Lookup β) :
    (lookup >>= continuation).converse answers past =
      let second := (continuation value).converse answers (past ++ readings)
      (readings ++ second.1, second.2) := by
  rw [converse] at goesOn
  refine (Dialogue.converse_bind answers past lookup (ExceptT.bindCont continuation)).trans ?_
  dsimp only
  rw [goesOn]
  rfl

/-- A lookup that ends before another. -/
theorem converse_bind_of_error {error : LookupError}
    (ends : lookup.converse answers past = (readings, .error error))
    (continuation : α → Lookup β) :
    (lookup >>= continuation).converse answers past = (readings, .error error) := by
  rw [converse] at ends
  refine (Dialogue.converse_bind answers past lookup (ExceptT.bindCont continuation)).trans ?_
  dsimp only
  rw [ends]
  exact Prod.ext (List.append_nil _) rfl

/-- A lookup whose conversations with a node are those with the node made forgiving, up to the first
document that spells no code. -/
def IsForgiven (node : List Query → Query → PostOutcome) (lookup : Lookup α) : Prop :=
  ∀ past, Forgiven (lookup.converse (answersOf node) past)
    (lookup.converse (answersOf (forgiving node)) (past.map Reading.forgiven))

/-- A lookup that reads nothing. -/
theorem isForgiven_pure (value : α) : IsForgiven node (pure value : Lookup α) :=
  fun _ => .alike (List.forall_mem_nil _)

/-- To take a note is to read nothing. -/
theorem isForgiven_takeNote (noted : Note) : IsForgiven node (takeNote noted) :=
  fun _ => .alike (List.forall_mem_nil _)

/-- A lookup that asks for no code. -/
theorem isForgiven_of_noCode
    (noCode : ∀ readings outcome, lookup.TakesPlace readings outcome → codeReadings readings = []) :
    IsForgiven node lookup := by
  intro past
  rw [converse, converse, Dialogue.converse_forgiving noCode]
  have nothing := noCode _ _ (Dialogue.takesPlace_converse (answersOf node) past lookup)
  have spelled : AreSpelled (Dialogue.converse (answersOf node) past lookup).1 := by
    intro reading isRead isCode
    exact absurd isCode (List.filter_eq_nil_iff.1 nothing reading isRead)
  generalize Dialogue.converse (answersOf node) past lookup = conversation at nothing spelled
  obtain ⟨readings, outcome⟩ := conversation
  have alike : Forgiven (readings, outcome) (readings.map Reading.forgiven, outcome) :=
    .alike spelled
  rwa [map_forgiven_eq_self nothing] at alike

/-- Lookups can be put together. -/
theorem IsForgiven.bind {continuation : α → Lookup β} (first : IsForgiven node lookup)
    (second : ∀ value, IsForgiven node (continuation value)) :
    IsForgiven node (lookup >>= continuation) := by
  intro past
  have forgiven := first past
  generalize isActual : lookup.converse (answersOf node) past = actual at forgiven
  generalize isLenient : lookup.converse (answersOf (forgiving node)) (past.map Reading.forgiven) =
    lenient at forgiven
  cases forgiven with
  | @alike readings outcome spelled =>
      cases outcome with
      | ok value =>
          rw [converse_bind_of_ok isActual, converse_bind_of_ok isLenient, ← List.map_append]
          exact (second value (past ++ readings)).prepend spelled
      | error error =>
          rw [converse_bind_of_error isActual, converse_bind_of_error isLenient]
          exact .alike spelled
  | @refused before later last document fault outcome spelled isCode stated misspelled =>
      rw [converse_bind_of_error isActual]
      cases outcome with
      | ok value =>
          rw [converse_bind_of_ok isLenient]
          dsimp only
          rw [List.append_assoc]
          exact .refused spelled isCode stated misspelled
      | error error =>
          rw [converse_bind_of_error isLenient]
          exact .refused spelled isCode stated misspelled

end Lookup

end TokenLens
