import TokenLens.Proofs.Node.Lookup
import TokenLens.Proofs.Proxy.Address
import TokenLens.Proxy.Target

/-!
# Conversations of probes

A probe never asks for code, and what it ends in is what its last answer means. Gathering keeps the
addresses that probes found, each once, and fails only by a breakdown that some answer was.
-/

namespace TokenLens

/-- A breakdown that one of the readings is. -/
def BrokenBy (cause : Breakdown) (readings : List Reading) : Prop :=
  ∃ query, (⟨query, .error (.broken cause)⟩ : Reading) ∈ readings

/-- A breakdown in one part of a conversation is one in the whole. -/
theorem BrokenBy.mono {cause : Breakdown} {readings more : List Reading}
    (broken : BrokenBy cause readings) (included : readings ⊆ more) : BrokenBy cause more := by
  obtain ⟨query, isRead⟩ := broken
  exact ⟨query, included isRead⟩

namespace ProbeOutcome

/-- An outcome that is what one of the readings means. -/
def IsRead (outcome : ProbeOutcome) (readings : List Reading) : Prop :=
  ∃ reading ∈ readings, outcome = ofAnswer reading.answer

variable {readings : List Reading}

/-- What was read in one part of a conversation was read in the whole. -/
theorem IsRead.mono {outcome : ProbeOutcome} {more : List Reading}
    (isRead : outcome.IsRead readings) (included : readings ⊆ more) : outcome.IsRead more := by
  obtain ⟨reading, isReading, meaning⟩ := isRead
  exact ⟨reading, included isReading, meaning⟩

/-- The address that a probe found is its own small form. -/
theorem IsRead.lower_address {address : Text} (isRead : (found address).IsRead readings) :
    Text.lower address = address := by
  obtain ⟨⟨query, answer⟩, -, meaning⟩ := isRead
  match answer, meaning with
  | .ok value, meaning =>
      simp only [ofAnswer] at meaning
      split at meaning
      next decoded holds =>
        obtain rfl := ProbeOutcome.found.inj meaning
        exact Address.lower_ofJson holds
      next => cases meaning
  | .error (.rpc _), meaning => cases meaning
  | .error (.broken _), meaning => cases meaning

/-- A probe breaks down only with an answer. -/
theorem IsRead.brokenBy {cause : Breakdown} (isRead : (broken cause).IsRead readings) :
    BrokenBy cause readings := by
  obtain ⟨⟨query, answer⟩, isReading, meaning⟩ := isRead
  match answer, meaning with
  | .ok value, meaning =>
      simp only [ofAnswer] at meaning
      split at meaning
      next => cases meaning
      next => cases meaning
  | .error (.rpc _), meaning => cases meaning
  | .error (.broken _), meaning =>
      obtain rfl := ProbeOutcome.broken.inj meaning
      exact ⟨query, isReading⟩

/-- An outcome of readings none of which asked for code. -/
structure EndsIn (readings : List Reading) (outcome : ProbeOutcome) : Prop where
  noCode : ∀ reading ∈ readings, reading.isCode = false
  isRead : outcome.IsRead readings

/-- The meaning of a single answer. -/
theorem endsIn_singleton {reading : Reading} (noCode : reading.isCode = false) :
    EndsIn [reading] (ofAnswer reading.answer) :=
  ⟨by simpa using noCode, reading, List.mem_singleton_self reading, rfl⟩

/-- The outcome of readings after another reading. -/
theorem EndsIn.cons {reading : Reading} {outcome : ProbeOutcome} (noCode : reading.isCode = false)
    (rest : EndsIn readings outcome) : EndsIn (reading :: readings) outcome :=
  ⟨List.forall_mem_cons.2 ⟨noCode, rest.noCode⟩, rest.isRead.mono (List.subset_cons_self _ _)⟩

end ProbeOutcome

namespace Probe

open ProbeOutcome

variable {url address : Text} {readings : List Reading}

/-- A beacon is asked by calls, and the last answer counts. -/
theorem takesPlace_askBeacon {held : Text} {outcome : ProbeOutcome}
    (conversation : (askBeacon url held).TakesPlace readings outcome) :
    EndsIn readings outcome := by
  obtain ⟨answer, later, rfl, rest⟩ := Dialogue.takesPlace_attempt_bind_iff.1 conversation
  split at rest
  next error =>
    obtain ⟨second, final, rfl, last⟩ := Dialogue.takesPlace_attempt_bind_iff.1 rest
    obtain ⟨rfl, rfl⟩ := Dialogue.takesPlace_pure_iff.1 last
    exact .cons rfl (endsIn_singleton rfl)
  next =>
    obtain ⟨rfl, rfl⟩ := Dialogue.takesPlace_pure_iff.1 rest
    exact endsIn_singleton rfl

/-- A probe does not ask for code, and one of its answers says what it ends in. -/
theorem takesPlace_run {probe : Probe} {outcome : ProbeOutcome}
    (conversation : (probe.run url address).TakesPlace readings outcome) :
    EndsIn readings outcome := by
  cases probe with
  | slot stored =>
      obtain ⟨answer, later, rfl, rest⟩ := Dialogue.takesPlace_attempt_bind_iff.1 conversation
      obtain ⟨rfl, rfl⟩ := Dialogue.takesPlace_pure_iff.1 rest
      exact endsIn_singleton rfl
  | getter view =>
      obtain ⟨answer, later, rfl, rest⟩ := Dialogue.takesPlace_attempt_bind_iff.1 conversation
      obtain ⟨rfl, rfl⟩ := Dialogue.takesPlace_pure_iff.1 rest
      exact endsIn_singleton rfl
  | beacon =>
      obtain ⟨answer, later, rfl, rest⟩ := Dialogue.takesPlace_attempt_bind_iff.1 conversation
      split at rest
      next held found => exact .cons rfl (takesPlace_askBeacon rest)
      next =>
        obtain ⟨rfl, rfl⟩ := Dialogue.takesPlace_pure_iff.1 rest
        exact endsIn_singleton rfl

/-- Of several probes none asks for code, and each ends in what one of the answers means. -/
theorem takesPlace_runAll {probes : List Probe} {outcomes : List (Probe × ProbeOutcome)}
    (conversation : (runAll url address probes).TakesPlace readings outcomes) :
    (∀ reading ∈ readings, reading.isCode = false) ∧
      ∀ entry ∈ outcomes, entry.2.IsRead readings := by
  induction probes generalizing readings outcomes with
  | nil =>
      obtain ⟨rfl, rfl⟩ := Dialogue.takesPlace_pure_iff.1 conversation
      exact ⟨by simp, by simp⟩
  | cons probe rest inductionHypothesis =>
      obtain ⟨first, others, outcome, rfl, ran, conversation⟩ :=
        Dialogue.takesPlace_bind_iff.1 conversation
      obtain ⟨second, _, later, rfl, ranLater, conversation⟩ :=
        Dialogue.takesPlace_bind_iff.1 conversation
      obtain ⟨rfl, rfl⟩ := Dialogue.takesPlace_pure_iff.1 conversation
      obtain ⟨noCode, isRead⟩ := takesPlace_run ran
      obtain ⟨noCodeLater, areRead⟩ := inductionHypothesis ranLater
      rw [List.append_nil]
      refine ⟨List.forall_mem_append.2 ⟨noCode, noCodeLater⟩, List.forall_mem_cons.2 ⟨?_, ?_⟩⟩
      · exact isRead.mono (List.subset_append_left _ _)
      · intro entry isEntry
        exact (areRead entry isEntry).mono (List.subset_append_right _ _)

/-- A list stays free of repetitions when it takes what it lacks. -/
theorem nodup_keep {found : List Text} (distinct : found.Nodup) (address : Text) :
    (if found.contains address then found else found ++ [address]).Nodup := by
  split
  next => exact distinct
  next isNew =>
    have notFound : address ∉ found := by simpa using isNew
    exact List.nodup_append.2 ⟨distinct, by simp, by grind⟩

/-- Collecting reads nothing. -/
theorem readings_collect {found : List Text} {outcomes : List (Probe × ProbeOutcome)}
    {outcome : Except LookupError (List Text)}
    (conversation : (collect found outcomes).TakesPlace readings outcome) : readings = [] := by
  induction outcomes generalizing found readings with
  | nil => exact (Lookup.takesPlace_pure_iff.1 conversation).1
  | cons entry rest inductionHypothesis =>
      match entry, conversation with
      | (_, .found address), conversation => exact inductionHypothesis conversation
      | (_, .failed reason), conversation =>
          exact inductionHypothesis (Lookup.takesPlace_takeNote_bind_iff.1 conversation)
      | (_, .broken cause), conversation => exact (Lookup.takesPlace_throw_iff.1 conversation).1

/-- Collecting keeps addresses that were found, each once. -/
theorem takesPlace_collect_ok {found targets : List Text}
    {outcomes : List (Probe × ProbeOutcome)} (distinct : found.Nodup)
    (conversation : (collect found outcomes).TakesPlace readings (.ok targets)) :
    targets.Nodup ∧
      ∀ target ∈ targets, target ∈ found ∨ ∃ probe, (probe, .found target) ∈ outcomes := by
  induction outcomes generalizing found readings with
  | nil =>
      obtain ⟨-, isSame⟩ := Lookup.takesPlace_pure_iff.1 conversation
      obtain rfl := Except.ok.inj isSame
      exact ⟨distinct, fun target isTarget => .inl isTarget⟩
  | cons entry rest inductionHypothesis =>
      match entry, conversation with
      | (probe, .found address), conversation =>
          obtain ⟨unique, areFound⟩ :=
            inductionHypothesis (nodup_keep distinct address) conversation
          refine ⟨unique, fun target isTarget => ?_⟩
          rcases areFound target isTarget with isKept | ⟨other, isOutcome⟩
          · by_cases isHere : target = address
            · subst isHere
              exact .inr ⟨probe, List.mem_cons_self⟩
            · left
              split at isKept
              · exact isKept
              · simpa [isHere] using isKept
          · exact .inr ⟨other, List.mem_cons_of_mem _ isOutcome⟩
      | (_, .failed reason), conversation =>
          obtain ⟨unique, areFound⟩ :=
            inductionHypothesis distinct (Lookup.takesPlace_takeNote_bind_iff.1 conversation)
          refine ⟨unique, fun target isTarget => (areFound target isTarget).imp_right ?_⟩
          rintro ⟨other, isOutcome⟩
          exact ⟨other, List.mem_cons_of_mem _ isOutcome⟩
      | (_, .broken cause), conversation => cases (Lookup.takesPlace_throw_iff.1 conversation).2

/-- Collecting fails only by the breakdown of a probe. -/
theorem takesPlace_collect_error {found : List Text} {outcomes : List (Probe × ProbeOutcome)}
    {error : LookupError}
    (conversation : (collect found outcomes).TakesPlace readings (.error error)) :
    ∃ cause probe, error = .broken cause ∧ (probe, .broken cause) ∈ outcomes := by
  induction outcomes generalizing found readings with
  | nil => cases (Lookup.takesPlace_pure_iff.1 conversation).2
  | cons entry rest inductionHypothesis =>
      match entry, conversation with
      | (_, .found address), conversation =>
          obtain ⟨cause, probe, rfl, isOutcome⟩ := inductionHypothesis conversation
          exact ⟨cause, probe, rfl, List.mem_cons_of_mem _ isOutcome⟩
      | (_, .failed reason), conversation =>
          obtain ⟨cause, probe, rfl, isOutcome⟩ :=
            inductionHypothesis (Lookup.takesPlace_takeNote_bind_iff.1 conversation)
          exact ⟨cause, probe, rfl, List.mem_cons_of_mem _ isOutcome⟩
      | (probe, .broken cause), conversation =>
          obtain ⟨-, isError⟩ := Lookup.takesPlace_throw_iff.1 conversation
          exact ⟨cause, probe, Except.error.inj isError, List.mem_cons_self⟩

end Probe

end TokenLens
