import TokenLens.Proofs.Json.Nesting
import TokenLens.Proofs.Proxy.Search

/-!
# Gathering on any schedule

To gather is to wait for all probes and to collect what they found, in the order of the probes. The
order in which their requests and replies interleave, the number of workers, and what the caches
held of the node before do not matter: every schedule comes to its end, and all lead to the list
that the replies of the node determine.
-/

namespace TokenLens

namespace Probe

/-- The probes of a contract, before anyone takes them up. -/
def pool (url address : Text) (caches : Caches) : Pool ProbeOutcome :=
  .start (all.map (run url address)) caches

/-- The number of workers for the probes when so many are asked for. -/
def workers (asked : Int) : Nat :=
  Pool.size asked all.length

/-- The probes were worked off on some schedule, and what they found was collected. -/
inductive Gathers (node : Query → PostOutcome) (asked : Int) (url address : Text)
    (caches : Caches) : Except LookupError (List Text) → List Query → Prop where
  | collected {count : Nat} {last : Pool ProbeOutcome} {found : List ProbeOutcome}
      (runs : (pool url address caches).Runs node (workers asked) count last)
      (finished : last.jobs = found.map .finished) :
      Gathers node asked url address caches
        (Dialogue.run node (collect [] (all.zip found)) last.caches).value last.sent

section Length

variable (answers : Query → Except ReadFault Json) (url address : Text)

/-- A beacon is asked twice at most. -/
theorem length_askBeacon_le (held : Text) : (askBeacon url held).length answers ≤ 5 := by
  rw [askBeacon, Dialogue.length_attempt_bind]
  cases answers ⟨url, .call held Getter.implementation.data⟩ with
  | ok value => exact Nat.le_add_right 3 2
  | error fault =>
      cases fault with
      | rpc error => exact Nat.le_refl 5
      | broken cause => exact Nat.le_add_right 3 2

/-- A probe asks three times at most. -/
theorem length_run_le (probe : Probe) : (probe.run url address).length answers ≤ 7 := by
  cases probe with
  | slot stored => exact Nat.le_add_right 3 4
  | getter view => exact Nat.le_add_right 3 4
  | beacon =>
      rw [run, Dialogue.length_attempt_bind]
      cases ProbeOutcome.ofAnswer (answers ⟨url, .storage address StorageSlot.beacon.word⟩) with
      | found held => exact Nat.add_le_add_right (length_askBeacon_le answers url held) 2
      | failed reason => exact Nat.le_add_right 3 4
      | broken cause => exact Nat.le_add_right 3 4

end Length

variable {node : Query → PostOutcome} {url address : Text} {caches : Caches}

/-- Whatever the schedule, the probes are worked off within eight moves for each of them. -/
theorem endsWithin_pool (reflects : caches.Reflects fun query => (node query).result)
    (asked : Int) :
    EndsWithin (Pool.Moves node (workers asked)) Pool.IsFinished 56 (pool url address caches) := by
  have short : ∀ dialogue ∈ all.map (run url address),
      dialogue.length (fun query => (node query).result) ≤ 7 := by
    intro dialogue isProbe
    obtain ⟨probe, -, rfl⟩ := List.mem_map.1 isProbe
    exact length_run_le _ url address probe
  exact Pool.endsWithin (Pool.size_pos asked all.length) reflects short

/-- All schedules of a gathering lead to one outcome. -/
theorem exists_gathers_iff (reflects : caches.Reflects fun query => (node query).result)
    {asked : Int} {outcome : Except LookupError (List Text)} :
    (∃ sent, Gathers node asked url address caches outcome sent) ↔
      outcome = (gather url address).outcome fun query => (node query).result := by
  -- A finished pool holds the fates of its probes, and to collect them asks nothing more.
  have same {count : Nat} {last : Pool ProbeOutcome} {found : List ProbeOutcome}
      (runs : (pool url address caches).Runs node (workers asked) count last)
      (finished : last.jobs = found.map .finished) :
      (Dialogue.run node (collect [] (all.zip found)) last.caches).value =
        (gather url address).outcome fun query => (node query).result := by
    rw [outcome_gather, ← Pool.Runs.finished_eq runs reflects finished]
    exact Lookup.value_run (Pool.Runs.keeps runs reflects).1 _
  constructor
  · rintro ⟨sent, ⟨runs, finished⟩⟩
    exact same runs finished
  · rintro rfl
    obtain ⟨count, found, last, runs, finished⟩ := Pool.exists_finished node
      (Pool.size_pos asked all.length) (all.map (run url address)) caches
    rw [← same runs finished]
    exact ⟨_, .collected runs finished⟩

end Probe

namespace Proxy

/-- A search for all targets, with so many workers asked for. -/
def Gathers (node : Query → PostOutcome) (asked : Int) (url address : Text)
    (bytecode : Option Json) (caches : Caches) :
    Except LookupError (List Text) → List Query → Prop :=
  Searches node url address bytecode caches Option.toList (Probe.Gathers node asked url address)

variable {node : Query → PostOutcome} {url address : Text} {bytecode : Option Json}
  {caches : Caches}

/-- All schedules of a search for all targets lead to one outcome: the value of the search that runs
the probes one after the other. -/
theorem exists_gathers_iff (reflects : caches.Reflects fun query => (node query).result)
    {asked : Int} {outcome : Except LookupError (List Text)} :
    (∃ sent, Gathers node asked url address bytecode caches outcome sent) ↔
      outcome = (Dialogue.run node (targets url address bytecode) caches).value := by
  rw [Gathers, exists_searches_iff reflects, Lookup.value_run reflects, targets_eq, outcome_search]
  cases (codeAt? url address bytecode).outcome fun query => (node query).result with
  | error error => rfl
  | ok code? =>
      dsimp only
      cases unprobed? code? with
      | some target? => rfl
      | none => exact Probe.exists_gathers_iff (reflects_opening reflects)

/-- Where code does not settle the targets, they follow from the last answers to the probes. -/
theorem concludes_targets {bytecode : Json} {code : Code} (objects : HasErrorObjects node)
    (reflects : caches.Reflects fun query => (node query).result)
    (spelled : Code.ofJson bytecode = .ok code) (isOpen : unprobed? (some code) = none) :
    Probe.Concludes (Probe.lastAnswers (fun query => (node query).result) url address)
      (Dialogue.run node (targets url address (some bytecode)) caches).value := by
  have isGathered : (Dialogue.run node (targets url address (some bytecode)) caches).value =
      (Probe.gather url address).outcome fun query => (node query).result := by
    rw [Lookup.value_run reflects, targets_eq, outcome_search,
      outcome_codeAt?_of_spelled rfl spelled]
    simp only [isOpen]
  rw [isGathered]
  exact Probe.concludes_gather fun query cause broken => objects.cause_eq broken

end Proxy

/-! ## A reply that is nested too deeply -/

/-- A reply whose result is an address. -/
def addressReply : PostOutcome :=
  .answered 200 "\x7b\"result\":\"0x0101010101010101010101010101010101010101\"\x7d"

/-- The address that the reply states. -/
def repliedAddress : Text :=
  "0x0101010101010101010101010101010101010101"

/-- The result that the reply states. -/
theorem result_addressReply : addressReply.result = .ok (.str repliedAddress) := by
  refine eq_of_resultText? ?_
  decide +kernel

/-- A reply that opens more lists than may stand inside each other is nested too deeply. -/
theorem PostOutcome.result_opening {count : Nat} (deep : Json.maxLevels < count) (rest : Text) :
    (answered 200 (Json.opening count rest)).result = .error (.broken .tooDeep) := by
  simp [result, bodyResult, Json.read_opening deep rest]

/-- A reply that is a list in a list, and so on, fifteen hundred times. -/
def deepReply : PostOutcome :=
  .answered 200 (Json.opening 1500 (List.replicate 1500 (.char ']')))

/-- The reply is nested too deeply. -/
theorem result_deepReply : deepReply.result = .error (.broken .tooDeep) :=
  PostOutcome.result_opening (by decide) _

/-- A node that keeps an address in every slot and is nested too deeply in all other replies. -/
def keepsAddress (query : Query) : PostOutcome :=
  match query.read with
  | .storage _ _ => addressReply
  | .code _ => deepReply
  | .call _ _ => deepReply

/-- Its replies have no error members at all. -/
theorem hasErrorObjects_keepsAddress : HasErrorObjects keepsAddress := by
  intro query broken
  unfold keepsAddress at broken
  split at broken
  · rw [result_addressReply] at broken
    cases broken
  · rw [result_deepReply] at broken
    cases broken
  · rw [result_deepReply] at broken
    cases broken

/-- The address that the node keeps is held by its answers. -/
theorem heldAddress?_repliedAddress :
    heldAddress? (.ok (.str repliedAddress)) = some repliedAddress := by
  decide +kernel

/-- What that node answers to the probes: the slots hold the address, and all else is nested too
deeply. -/
theorem lastAnswers_keepsAddress (url address : Text) :
    let kept := .ok (.str repliedAddress)
    let deep := .error (.broken .tooDeep)
    Probe.lastAnswers (fun query => (keepsAddress query).result) url address =
      [kept, kept, kept, deep, deep, deep, deep] := by
  have stores (address slot : Text) :
      (keepsAddress ⟨url, .storage address slot⟩).result = .ok (.str repliedAddress) :=
    result_addressReply
  have calls (target data : Text) :
      (keepsAddress ⟨url, .call target data⟩).result = .error (.broken .tooDeep) :=
    result_deepReply
  simp only [Probe.lastAnswers, Probe.beaconAnswer, Probe.beaconReply, stores, calls,
    heldAddress?_repliedAddress]

namespace Proxy

/-- Before that node the search for all targets ends in a breakdown. -/
theorem value_targets_keepsAddress :
    (Dialogue.run keepsAddress (targets "http://node" "0xa1" (some (.str "0x6000"))) .empty).value =
      .error (.broken .tooDeep) := by
  have spelled : Code.ofJson (.str "0x6000") = .ok ⟨[0x60, 0x00]⟩ := rfl
  refine (concludes_targets hasErrorObjects_keepsAddress (Caches.reflects_empty _) spelled
    (by decide)).eq_tooDeep ?_
  simp [lastAnswers_keepsAddress]

end Proxy

end TokenLens
