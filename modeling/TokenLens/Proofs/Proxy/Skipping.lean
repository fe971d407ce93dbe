import TokenLens.Proofs.Node.Reply
import TokenLens.Proofs.Proxy.Probe
import TokenLens.Proofs.Proxy.Race

/-!
# Failures that a race passes over

A race passes over each probe that fails for a reason that callers expect, and a breakdown is none.
A probe breaks down only where a reply does, so a race ends in a failure only before a node with a
reply that breaks down (`Probe.Races.breaks`): one that is nested too deeply, or one whose error
member is no object, such as a reply that states its error as a text (`busyReply`).
-/

namespace TokenLens

namespace Probe

variable {node : Query → PostOutcome} {url address : Text} {caches : Caches} {asked : Int}
  {readings : List Reading}

/-- A probe of replies none of which breaks down finds an address or fails. -/
theorem found_or_failed {probe : Probe} {outcome : ProbeOutcome}
    (conversation : (probe.run url address).TakesPlace readings outcome)
    (replied : ∀ reading ∈ readings, ∃ reply : PostOutcome,
      reading.answer = reply.result ∧ ∀ cause, ¬ reply.Breaks cause) :
    (∃ target, outcome = .found target) ∨ ∃ reason, outcome = .failed reason := by
  cases outcome with
  | found target => exact .inl ⟨target, rfl⟩
  | failed reason => exact .inr ⟨reason, rfl⟩
  | broken cause =>
      obtain ⟨query, isRead⟩ := (takesPlace_run conversation).isRead.brokenBy
      obtain ⟨reply, isReply, intact⟩ := replied _ isRead
      exact absurd (PostOutcome.result_eq_broken_iff.1 isReply.symm) (intact cause)

/-- On every schedule, a race fails only by the breakdown of a reply. -/
theorem Races.breaks {error : LookupError} {sent : List Query}
    (reflects : caches.Reflects fun query => (node query).result)
    (races : Races node asked url address caches (.error error) sent) :
    ∃ query cause, error = .broken cause ∧ (node query).Breaks cause := by
  obtain ⟨runs, ends⟩ := races
  cases ends with
  | @brokeDown place cause broken =>
      have isFate := (Race.continues_of_steps reflects runs).fate reflects broken
      rw [fates_pool] at isFate
      obtain ⟨answer, isLast, isBroken⟩ := List.mem_map.1 (List.mem_of_getElem? isFate)
      obtain rfl := ProbeOutcome.ofAnswer_eq_broken_iff.1 isBroken
      obtain ⟨query, isAnswer⟩ := exists_query_of_mem_lastAnswers isLast
      exact ⟨query, cause, rfl, PostOutcome.result_eq_broken_iff.1 isAnswer.symm⟩

/-- A read of which no answer is remembered ends in a document exactly if the reply states it,
breaks down exactly if the reply does, and fails in every other case as callers expect. A probe of
replies that do not break down finds an address or fails in a way that is passed over, and a race
fails on no schedule but by the breakdown of a reply. -/
theorem races_pass_failures (node : Query → PostOutcome) :
    (∀ query caches, caches.consult query = none →
      let value := (Dialogue.run node (Lookup.read query) caches).value
      (∀ document, value = .ok document ↔ (node query).States document) ∧
      (∀ cause, value = .error (.broken cause) ↔ (node query).Breaks cause) ∧
      ((∀ document, ¬ (node query).States document) → (∀ cause, ¬ (node query).Breaks cause) →
        ∃ error, value = .error (.rpc error))) ∧
    (∀ url address (probe : Probe) readings outcome,
      (probe.run url address).TakesPlace readings outcome →
      (∀ reading ∈ readings, ∃ reply : PostOutcome,
        reading.answer = reply.result ∧ ∀ cause, ¬ reply.Breaks cause) →
      (∃ target, outcome = .found target) ∨ ∃ reason, outcome = .failed reason) ∧
    ∀ url address caches asked error sent,
      caches.Reflects (fun query => (node query).result) →
      Races node asked url address caches (.error error) sent →
      ∃ query cause, error = .broken cause ∧ (node query).Breaks cause := by
  refine ⟨fun query caches isNew => ?_, fun _ _ _ _ _ => found_or_failed,
    fun _ _ _ _ _ _ reflects races => races.breaks reflects⟩
  simp only [Lookup.value_run_read isNew, ← PostOutcome.result_eq_ok_iff,
    ← PostOutcome.result_eq_broken_iff]
  cases (node query).result with
  | ok document => simp [Except.mapError]
  | error fault =>
      cases fault with
      | rpc error => simp [Except.mapError, LookupError.ofFault]
      | broken cause => simp [Except.mapError, LookupError.ofFault]

end Probe

/-! ## An error that is no object -/

/-- The breakdown that a result is. -/
def breakdown? : Except ReadFault Json → Option Breakdown
  | .error (.broken cause) => some cause
  | .error (.rpc _) => none
  | .ok _ => none

/-- A result is the breakdown that it is. -/
theorem eq_of_breakdown? {result : Except ReadFault Json} {cause : Breakdown}
    (isBroken : breakdown? result = some cause) : result = .error (.broken cause) := by
  unfold breakdown? at isBroken
  split at isBroken
  next => rw [Option.some.inj isBroken]
  next => cases isBroken
  next => cases isBroken

/-- A reply that states an error as a text. -/
def busyReply : PostOutcome :=
  .answered 200 "\x7b\"error\":\"busy\"\x7d"

/-- The reply breaks the reading down. -/
theorem result_busyReply : busyReply.result = .error (.broken .malformedErrorMember) := by
  refine eq_of_breakdown? ?_
  decide +kernel

/-- A node that is always busy. -/
def busy : Query → PostOutcome :=
  fun _ => busyReply

namespace Probe

/-- The race before a node that is always busy breaks down with its first probe. -/
theorem exists_races_busy (url address : Text) (asked : Int) :
    ∃ sent, Races busy asked url address .empty (.error (.broken .malformedErrorMember)) sent := by
  have reflects := Caches.reflects_empty fun query => (busy query).result
  have breaks : (race url address all).outcome (fun query => (busy query).result) =
      .error (.broken .malformedErrorMember) := by
    have first : lastAnswer (fun query => (busy query).result) url address (.slot .implementation) =
        .error (.broken .malformedErrorMember) := result_busyReply
    rw [all, outcome_race_cons, evaluate_run, first]
    rfl
  rw [← breaks]
  exact exists_races reflects asked

/-- What becomes of failures before a node that is always busy: a read breaks down, and so does a
race. A probe whose reply states an address finds it. -/
theorem races_pass_failures_busy :
    let query : Query := ⟨"http://node", .storage "0xa1" StorageSlot.implementation.word⟩
    let readings : List Reading := [⟨query, .ok (.str repliedAddress)⟩]
    Caches.empty.consult query = none ∧
    (Dialogue.run busy (Lookup.read query) .empty).value = .error (.broken .malformedErrorMember) ∧
    ((slot .implementation).run "http://node" "0xa1").TakesPlace readings (.found repliedAddress) ∧
    (∀ cause, ¬ addressReply.Breaks cause) ∧
    ((∃ target, ProbeOutcome.found repliedAddress = .found target) ∨
      ∃ reason, ProbeOutcome.found repliedAddress = .failed reason) ∧
    Caches.empty.Reflects (fun query => (busy query).result) ∧
    ∃ sent, Races busy 7 "http://node" "0xa1" .empty (.error (.broken .malformedErrorMember)) sent ∧
      ∃ query cause, LookupError.broken .malformedErrorMember = .broken cause ∧
        (busy query).Breaks cause := by
  intro query readings
  obtain ⟨reads, probes, races⟩ := races_pass_failures busy
  have isNew : Caches.empty.consult query = none := rfl
  have conversation : ((slot .implementation).run "http://node" "0xa1").TakesPlace readings
      (.found repliedAddress) := by
    have meaning : ProbeOutcome.ofAnswer (.ok (.str repliedAddress)) = .found repliedAddress :=
      ProbeOutcome.ofAnswer_eq_found_iff.2 heldAddress?_repliedAddress
    rw [← meaning]
    exact .ask (.done _)
  have intact : ∀ cause, ¬ addressReply.Breaks cause := by
    intro cause breaks
    cases result_addressReply.symm.trans (PostOutcome.result_eq_broken_iff.2 breaks)
  have replied : ∀ reading ∈ readings, ∃ reply : PostOutcome,
      reading.answer = reply.result ∧ ∀ cause, ¬ reply.Breaks cause := by
    intro reading isRead
    rw [List.mem_singleton.1 isRead]
    exact ⟨addressReply, result_addressReply.symm, intact⟩
  have breaks : (busy query).Breaks .malformedErrorMember :=
    PostOutcome.result_eq_broken_iff.1 result_busyReply
  have reflects := Caches.reflects_empty fun query => (busy query).result
  obtain ⟨sent, raced⟩ := exists_races_busy "http://node" "0xa1" 7
  obtain ⟨-, breaksDown, -⟩ := reads query .empty isNew
  exact ⟨isNew, (breaksDown .malformedErrorMember).2 breaks, conversation, intact,
    probes _ _ _ _ _ conversation replied, reflects, sent, raced,
    races _ _ _ _ _ _ reflects raced⟩

end Probe

/-- Of a node that is always busy, no read states a document, and none fails as callers expect; and
the race of the probes of a contract may end in the breakdown. -/
theorem read_busyReply :
    (∀ query document, ¬ (busy query).States document) ∧
    (∀ query error, (Dialogue.run busy (Lookup.read query) .empty).value ≠ .error (.rpc error)) ∧
    ∃ sent, Probe.Races busy 7 "http://node" "0xa1" .empty
      (.error (.broken .malformedErrorMember)) sent := by
  refine ⟨fun query document states => ?_, fun query error => ?_,
    Probe.exists_races_busy "http://node" "0xa1" 7⟩
  · cases result_busyReply.symm.trans (PostOutcome.result_eq_ok_iff.2 states)
  · have isNew : Caches.empty.consult query = none := by
      obtain ⟨url, read⟩ := query
      cases read with
      | code address => rfl
      | storage address slot => rfl
      | call target data => rfl
    rw [Lookup.value_run_read isNew, busy, result_busyReply]
    exact nofun

end TokenLens
