import TokenLens.Proofs.Node.Evaluation
import TokenLens.Proofs.Node.Proper
import TokenLens.Proxy.Target

/-!
# What the probes find at a node that stays the same

Where the replies of a node are a function of the query, each probe has one answer that decides what
it finds, and `Probe.lastAnswers` lists these answers. A probe succeeds exactly if its answer
arrived and holds an address. What is gathered follows from the answers alone, as
`Probe.Concludes` says.
-/

namespace TokenLens

/-- The error members of all replies of a node are objects. -/
def HasErrorObjects (node : Query → PostOutcome) : Prop :=
  ∀ query, (node query).result ≠ .error (.broken .malformedErrorMember)

/-- Where error members are objects, a reply breaks the reading down only if it is nested too
deeply. -/
theorem HasErrorObjects.cause_eq {node : Query → PostOutcome} (objects : HasErrorObjects node)
    {query : Query} {cause : Breakdown} (broken : (node query).result = .error (.broken cause)) :
    cause = .tooDeep := by
  rcases PostOutcome.cause_of_result broken with rfl | rfl
  · rfl
  · exact absurd broken (objects query)

/-- The address that an answer holds, if it arrived and holds one. -/
def heldAddress? : Except ReadFault Json → Option Text
  | .ok value => (Address.ofJson value).toOption
  | .error _ => none

namespace ProbeOutcome

/-- A probe finds the address that its answer holds. -/
theorem ofAnswer_eq_found_iff {answer : Except ReadFault Json} {target : Text} :
    ofAnswer answer = .found target ↔ heldAddress? answer = some target := by
  match answer with
  | .ok value =>
      simp only [ofAnswer, heldAddress?]
      cases Address.ofJson value with
      | ok address => simp [Except.toOption]
      | error fault => simp [Except.toOption]
  | .error (.rpc error) => simp [ofAnswer, heldAddress?]
  | .error (.broken cause) => simp [ofAnswer, heldAddress?]

/-- A probe breaks down as its answer does. -/
theorem ofAnswer_eq_broken_iff {answer : Except ReadFault Json} {cause : Breakdown} :
    ofAnswer answer = .broken cause ↔ answer = .error (.broken cause) := by
  match answer with
  | .ok value =>
      simp only [ofAnswer]
      cases Address.ofJson value with
      | ok address => simp
      | error fault => simp
  | .error (.rpc error) => simp [ofAnswer]
  | .error (.broken cause) => simp [ofAnswer]

/-- The address that a probe finds is the one that its answer holds. -/
theorem address?_ofAnswer (answer : Except ReadFault Json) :
    (ofAnswer answer).address? = heldAddress? answer := by
  match answer with
  | .ok value =>
      simp only [ofAnswer, heldAddress?]
      cases Address.ofJson value with
      | ok address => rfl
      | error fault => rfl
  | .error (.rpc error) => rfl
  | .error (.broken cause) => rfl

end ProbeOutcome

namespace Probe

open ProbeOutcome

variable (answers : Query → Except ReadFault Json) (url address : Text)

/-- The answer that counts of a beacon: that to `implementation()`, or that to
`childImplementation()` exactly if the first call fails as callers expect. -/
def beaconReply (held : Text) : Except ReadFault Json :=
  match answers ⟨url, .call held Getter.implementation.data⟩ with
  | .error (.rpc _) => answers ⟨url, .call held Getter.childImplementation.data⟩
  | answer => answer

/-- The answer that decides what is found by way of the beacon: that of the beacon whose address the
slot holds, or what came of the slot if it holds none. -/
def beaconAnswer : Except ReadFault Json :=
  let stored := answers ⟨url, .storage address StorageSlot.beacon.word⟩
  match heldAddress? stored with
  | some held => beaconReply answers url held
  | none => stored

/-- The answer that decides what a probe finds. -/
def lastAnswer : Probe → Except ReadFault Json
  | .slot stored => answers ⟨url, .storage address stored.word⟩
  | .getter view => answers ⟨url, .call address view.data⟩
  | .beacon => beaconAnswer answers url address

/-- The answers that decide what is found: in the slots of EIP-1967, OpenZeppelin and EIP-1822, by
the getters `implementation()`, `masterCopy()` and `comptrollerImplementation()`, and by way of the
beacon. -/
def lastAnswers : List (Except ReadFault Json) :=
  [answers ⟨url, .storage address StorageSlot.implementation.word⟩,
   answers ⟨url, .storage address StorageSlot.zeppelin.word⟩,
   answers ⟨url, .storage address StorageSlot.proxiable.word⟩,
   answers ⟨url, .call address Getter.implementation.data⟩,
   answers ⟨url, .call address Getter.masterCopy.data⟩,
   answers ⟨url, .call address Getter.comptroller.data⟩,
   beaconAnswer answers url address]

/-- What a beacon is asked for is what the answer that counts means. -/
theorem evaluate_askBeacon (held : Text) :
    (askBeacon url held).evaluate answers = ofAnswer (beaconReply answers url held) := by
  rw [askBeacon, Dialogue.evaluate_attempt_bind, beaconReply]
  cases answers ⟨url, .call held Getter.implementation.data⟩ with
  | ok value => rfl
  | error fault =>
      cases fault with
      | rpc error => rfl
      | broken cause => rfl

/-- A probe ends in what its last answer means. -/
theorem evaluate_run (probe : Probe) :
    (probe.run url address).evaluate answers = ofAnswer (lastAnswer answers url address probe) := by
  cases probe with
  | slot stored => rfl
  | getter view => rfl
  | beacon =>
      rw [run, Dialogue.evaluate_attempt_bind, lastAnswer, beaconAnswer, ← address?_ofAnswer]
      cases meaning : ofAnswer (answers ⟨url, .storage address StorageSlot.beacon.word⟩) with
      | found held => exact evaluate_askBeacon answers url held
      | failed reason => exact meaning.symm
      | broken cause => exact meaning.symm

/-- All probes end in what their last answers mean. -/
theorem evaluate_all :
    (all.map (run url address)).map (Dialogue.evaluate answers) =
      (lastAnswers answers url address).map ofAnswer := by
  rw [List.map_map]
  exact List.map_congr_left fun probe _ => evaluate_run answers url address probe

/-- To run probes one after the other is to evaluate each of them. -/
theorem evaluate_runAll (probes : List Probe) :
    (runAll url address probes).evaluate answers =
      probes.zip ((probes.map (run url address)).map (Dialogue.evaluate answers)) := by
  induction probes with
  | nil => rfl
  | cons probe rest inductionHypothesis =>
      refine (Dialogue.evaluate_bind answers _ _).trans ?_
      refine (Dialogue.evaluate_bind answers _ _).trans ?_
      rw [inductionHypothesis]
      rfl

/-- To gather is to collect what all probes find. -/
theorem outcome_gather :
    (gather url address).outcome answers =
      (collect [] (all.zip ((all.map (run url address)).map
        (Dialogue.evaluate answers)))).outcome answers := by
  rw [gather, Lookup.outcome_liftM_bind, evaluate_runAll]

variable {answers url address}

/-- The answer that counts of a beacon is the answer to some query. -/
theorem exists_query_beaconReply (held : Text) :
    ∃ query, beaconReply answers url held = answers query := by
  unfold beaconReply
  split
  · exact ⟨_, rfl⟩
  · exact ⟨_, rfl⟩

/-- What decides what is found by way of the beacon is the answer to some query. -/
theorem exists_query_beaconAnswer :
    ∃ query, beaconAnswer answers url address = answers query := by
  simp only [beaconAnswer]
  split
  next held _ => exact exists_query_beaconReply held
  next => exact ⟨_, rfl⟩

/-- Each of the last answers is the answer to some query. -/
theorem exists_query_of_mem_lastAnswers {answer : Except ReadFault Json}
    (isLast : answer ∈ lastAnswers answers url address) : ∃ query, answer = answers query := by
  simp only [lastAnswers, List.mem_cons, List.not_mem_nil, or_false] at isLast
  rcases isLast with rfl | rfl | rfl | rfl | rfl | rfl | rfl
  all_goals first | exact ⟨_, rfl⟩ | exact exists_query_beaconAnswer

/-! ## What is gathered -/

/-- What is gathered when the answers that count are given: the addresses that they hold, in their
order, each where it comes first. If an answer is nested too deeply, nothing is gathered. -/
inductive Concludes (stated : List (Except ReadFault Json)) :
    Except LookupError (List Text) → Prop where
  | listed (readable : .error (.broken .tooDeep) ∉ stated) :
      Concludes stated (.ok (stated.filterMap heldAddress?).eraseDups)
  | tooDeep (isStated : .error (.broken .tooDeep) ∈ stated) :
      Concludes stated (.error (.broken .tooDeep))

/-- To remove one text more is to pass over it in what is left. -/
theorem removeAll_concat (texts found : List Text) (target : Text) :
    texts.removeAll (found ++ [target]) =
      (texts.removeAll found).filter fun text => !text == target := by
  simp only [List.removeAll, List.filter_filter]
  refine List.filter_congr fun text _ => ?_
  rw [Bool.eq_iff_iff]
  simp [and_comm]

/-- With an answer that is nested too deeply nothing is gathered. -/
theorem Concludes.eq_tooDeep {stated : List (Except ReadFault Json)}
    {outcome : Except LookupError (List Text)} (concludes : Concludes stated outcome)
    (isStated : .error (.broken .tooDeep) ∈ stated) : outcome = .error (.broken .tooDeep) := by
  cases concludes with
  | listed readable => exact absurd isStated readable
  | tooDeep _ => rfl

/-- Collecting outcomes none of which is a breakdown adds each address that is not there yet. -/
theorem outcome_collect {outcomes : List (Probe × ProbeOutcome)}
    (intact : ∀ entry ∈ outcomes, ∀ cause, entry.2 ≠ .broken cause) (found : List Text) :
    (collect found outcomes).outcome answers =
      .ok (found ++ ((outcomes.filterMap (·.2.address?)).removeAll found).eraseDups) := by
  induction outcomes generalizing found with
  | nil => simp [collect]
  | cons entry rest inductionHypothesis =>
      obtain ⟨here, later⟩ := List.forall_mem_cons.1 intact
      match entry, here with
      | (_, .found target), _ =>
          rw [collect, inductionHypothesis later]
          simp only [List.filterMap_cons, address?, List.cons_removeAll]
          split
          next isKept => rw [if_neg (by simpa using isKept)]
          next isNew =>
            rw [if_pos (by simpa using isNew), List.eraseDups_cons, removeAll_concat,
              List.append_assoc, List.singleton_append]
      | (_, .failed reason), _ =>
          rw [collect, Lookup.outcome_bind, Lookup.outcome_takeNote]
          exact inductionHypothesis later found
      | (_, .broken cause), here => exact absurd rfl (here cause)

/-- Collecting outcomes with a breakdown among them ends in a breakdown. -/
theorem outcome_collect_of_broken {outcomes : List (Probe × ProbeOutcome)}
    (isBroken : ∃ entry ∈ outcomes, ∃ cause, entry.2 = .broken cause) (found : List Text) :
    ∃ entry ∈ outcomes, ∃ cause, entry.2 = .broken cause ∧
      (collect found outcomes).outcome answers = .error (.broken cause) := by
  induction outcomes generalizing found with
  | nil => simp at isBroken
  | cons entry rest inductionHypothesis =>
      match entry, isBroken with
      | (_, .found target), isBroken =>
          obtain ⟨entry, isEntry, broken⟩ := inductionHypothesis (by simpa using isBroken)
            (if found.contains target then found else found ++ [target])
          exact ⟨entry, List.mem_cons_of_mem _ isEntry, broken⟩
      | (_, .failed reason), isBroken =>
          obtain ⟨entry, isEntry, broken⟩ := inductionHypothesis (by simpa using isBroken) found
          exact ⟨entry, List.mem_cons_of_mem _ isEntry, broken⟩
      | (probe, .broken cause), _ =>
          exact ⟨(probe, .broken cause), List.mem_cons_self, cause, rfl, rfl⟩

section Stated

variable {stated : List (Except ReadFault Json)} {outcomes : List (Probe × ProbeOutcome)}

/-- An outcome is a breakdown exactly if an answer is one. -/
theorem exists_broken_iff (meaning : outcomes.map Prod.snd = stated.map ofAnswer)
    {cause : Breakdown} :
    (∃ entry ∈ outcomes, entry.2 = .broken cause) ↔ .error (.broken cause) ∈ stated := by
  have isOutcome : (∃ entry ∈ outcomes, entry.2 = .broken cause) ↔
      .broken cause ∈ stated.map ofAnswer := by
    rw [← meaning, List.mem_map]
  simp [isOutcome, ofAnswer_eq_broken_iff]

/-- The addresses that were found are those that the answers hold. -/
theorem filterMap_address? (meaning : outcomes.map Prod.snd = stated.map ofAnswer) :
    outcomes.filterMap (·.2.address?) = stated.filterMap heldAddress? := by
  calc outcomes.filterMap (·.2.address?) = (outcomes.map Prod.snd).filterMap address? := by
        rw [List.filterMap_map]; rfl
    _ = (stated.map ofAnswer).filterMap address? := by rw [meaning]
    _ = stated.filterMap heldAddress? := by
        rw [List.filterMap_map]
        exact congrArg (List.filterMap · stated) (funext address?_ofAnswer)

/-- What is collected when each outcome is what an answer means, and an answer breaks the reading
down only if it is nested too deeply. -/
theorem concludes_collect (meaning : outcomes.map Prod.snd = stated.map ofAnswer)
    (causes : ∀ cause, .error (.broken cause) ∈ stated → cause = .tooDeep) :
    Concludes stated ((collect [] outcomes).outcome answers) := by
  by_cases isDeep : .error (.broken .tooDeep) ∈ stated
  · obtain ⟨entry, isEntry, isBroken⟩ := (exists_broken_iff meaning).2 isDeep
    obtain ⟨first, isFirst, cause, isCause, collected⟩ :=
      @outcome_collect_of_broken answers outcomes ⟨entry, isEntry, _, isBroken⟩ []
    obtain rfl := causes cause ((exists_broken_iff meaning).1 ⟨first, isFirst, isCause⟩)
    rw [collected]
    exact .tooDeep isDeep
  · have intact : ∀ entry ∈ outcomes, ∀ cause, entry.2 ≠ .broken cause := by
      intro entry isEntry cause isBroken
      have isStated := (exists_broken_iff meaning).1 ⟨entry, isEntry, isBroken⟩
      exact isDeep (causes cause isStated ▸ isStated)
    rw [outcome_collect intact, filterMap_address? meaning, List.nil_append, List.removeAll_nil]
    exact .listed isDeep

end Stated

/-- What is gathered follows from the last answers. -/
theorem concludes_gather
    (causes : ∀ query cause, answers query = .error (.broken cause) → cause = .tooDeep) :
    Concludes (lastAnswers answers url address) ((gather url address).outcome answers) := by
  rw [outcome_gather]
  refine concludes_collect ?_ fun cause isLast => ?_
  · rw [← evaluate_all]
    exact List.map_snd_zip (by simp)
  · obtain ⟨query, isAnswer⟩ := exists_query_of_mem_lastAnswers isLast
    exact causes query cause isAnswer.symm

end Probe

end TokenLens
