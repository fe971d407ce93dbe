import TokenLens.Proofs.Proxy.Probe

/-!
# Conversations about targets

To find the targets of a contract whose code is at hand never asks for code. The targets are
distinct and in small letters, and the search fails only by a breakdown that some answer was.
-/

namespace TokenLens

/-- Gathering is running all probes and collecting what they find. -/
theorem Probe.takesPlace_gather {url address : Text} {readings : List Reading}
    {outcome : Except LookupError (List Text)}
    (conversation : (gather url address).TakesPlace readings outcome) :
    ∃ outcomes, (runAll url address all).TakesPlace readings outcomes ∧
      (collect [] outcomes).TakesPlace [] outcome := by
  obtain ⟨earlier, later, outcomes, rfl, ran, collected⟩ :=
    Lookup.takesPlace_liftM_bind_iff.1 conversation
  obtain rfl := readings_collect collected
  rw [List.append_nil]
  exact ⟨outcomes, ran, collected⟩

namespace Proxy

variable {url address : Text} {code : Code} {readings : List Reading}

/-- The three ways to find targets: there is no code, the code names one, or probes are gathered. -/
theorem takesPlace_targetsOfCode {outcome : Except LookupError (List Text)}
    (conversation : (targetsOfCode url address code).TakesPlace readings outcome) :
    (readings = [] ∧ outcome = .ok []) ∨
      (∃ target, literalTarget? code = some target ∧ readings = [] ∧ outcome = .ok [target]) ∨
      (Probe.gather url address).TakesPlace readings outcome := by
  unfold targetsOfCode at conversation
  split at conversation
  · exact .inl (Lookup.takesPlace_pure_iff.1 conversation)
  · split at conversation
    next target names =>
      exact .inr (.inl ⟨target, names, Lookup.takesPlace_pure_iff.1 conversation⟩)
    next => exact .inr (.inr conversation)

/-- The address that code names itself is a literal among its instructions. -/
theorem literalTarget?_of_names {target : Text} (names : literalTarget? code = some target) :
    Instruction.literalTarget? code.instructions = some target := by
  rw [literalTarget?, Code.finding?] at names
  split at names
  next =>
    simp only [Option.bind_some, Finding.target?, Code.proxyKind] at names
    split at names
    next literal isLiteral =>
      split at names
      · exact isLiteral.trans names
      · exact isLiteral.trans names
    next =>
      split at names
      · cases names
      · cases names
  next => cases names

/-- The address that code names itself is its own small form. -/
theorem lower_literalTarget? {target : Text} (names : literalTarget? code = some target) :
    Text.lower target = target :=
  Instruction.lower_literalTarget? (literalTarget?_of_names names)

/-- To find targets is not to ask for code. -/
theorem noCode_targetsOfCode {outcome : Except LookupError (List Text)}
    (conversation : (targetsOfCode url address code).TakesPlace readings outcome) :
    codeReadings readings = [] := by
  rcases takesPlace_targetsOfCode conversation with ⟨rfl, -⟩ | ⟨_, -, rfl, -⟩ | gathered
  · rfl
  · rfl
  · obtain ⟨outcomes, ran, -⟩ := Probe.takesPlace_gather gathered
    exact codeReadings_eq_nil (Probe.takesPlace_runAll ran).1

/-- The targets that are found are distinct, and each is its own small form. -/
theorem nodup_targetsOfCode {targets : List Text}
    (conversation : (targetsOfCode url address code).TakesPlace readings (.ok targets)) :
    targets.Nodup ∧ ∀ target ∈ targets, Text.lower target = target := by
  rcases takesPlace_targetsOfCode conversation with ⟨-, same⟩ | ⟨named, names, -, same⟩ | gathered
  · obtain rfl := Except.ok.inj same
    exact ⟨.nil, by simp⟩
  · obtain rfl := Except.ok.inj same
    exact ⟨List.nodup_singleton named, by simpa using lower_literalTarget? names⟩
  · obtain ⟨outcomes, ran, collected⟩ := Probe.takesPlace_gather gathered
    obtain ⟨distinct, areFound⟩ := Probe.takesPlace_collect_ok .nil collected
    refine ⟨distinct, fun target isTarget => ?_⟩
    rcases areFound target isTarget with isNone | ⟨probe, isOutcome⟩
    · cases isNone
    · exact ((Probe.takesPlace_runAll ran).2 _ isOutcome).lower_address

/-- The search for targets fails only by a breakdown that some answer was. -/
theorem brokenBy_targetsOfCode {error : LookupError}
    (conversation : (targetsOfCode url address code).TakesPlace readings (.error error)) :
    ∃ cause, error = .broken cause ∧ BrokenBy cause readings := by
  rcases takesPlace_targetsOfCode conversation with ⟨-, same⟩ | ⟨_, -, -, same⟩ | gathered
  · cases same
  · cases same
  · obtain ⟨outcomes, ran, collected⟩ := Probe.takesPlace_gather gathered
    obtain ⟨cause, probe, rfl, isOutcome⟩ := Probe.takesPlace_collect_error collected
    exact ⟨cause, rfl, ((Probe.takesPlace_runAll ran).2 _ isOutcome).brokenBy⟩

end Proxy

end TokenLens
