import TokenLens.Proofs.Node.Caching
import TokenLens.Proofs.Node.Lookup

/-!
# What a reply comes to

A reply *states* a document if the request went through, the status is none of a failure, and the
body is an object without an error member whose result is that document and not null. A reply
*breaks* the reading down if its body is nested too deeply, or if its error member is no object:
then no reason is left to give. Every other reply is a failure that callers expect. A read comes to
what the reply comes to, unless an answer is remembered.
-/

namespace TokenLens

namespace PostOutcome

/-- A request that went through and brought a body, with a status that is none of a failure. -/
inductive Brings (body : Text) : PostOutcome → Prop where
  | answered {status : Nat} (isNoFailure : ¬(400 ≤ status ∧ status < 600)) :
      Brings body (.answered status body)

/-- A reply that states a document. -/
inductive States (document : Json) (outcome : PostOutcome) : Prop where
  | result {body : Text} {members : List (Text × Json)} (brings : outcome.Brings body)
      (isObject : Json.read body = .ok (.obj members))
      (noError : Keyed.get? "error" members = none)
      (isResult : Keyed.get? "result" members = some document) (notNull : document ≠ .null) :
      States document outcome

/-- A reply on which a reading breaks down, and why. -/
inductive Breaks (outcome : PostOutcome) : Breakdown → Prop where
  | tooDeep {body : Text} (brings : outcome.Brings body)
      (isDeep : Json.read body = .error .tooDeep) : Breaks outcome .tooDeep
  | errorMember {body : Text} {members : List (Text × Json)} {stated : Json}
      (brings : outcome.Brings body) (isObject : Json.read body = .ok (.obj members))
      (isError : Keyed.get? "error" members = some stated)
      (noObject : ∀ inner, stated ≠ .obj inner) : Breaks outcome .malformedErrorMember

variable {outcome : PostOutcome} {body : Text} {members : List (Text × Json)} {document : Json}
  {cause : Breakdown}

/-- The result of a reply that brings a body is the result that the body states. -/
theorem Brings.result_eq (brings : outcome.Brings body) : outcome.result = bodyResult body := by
  cases brings with
  | answered isNoFailure =>
      rw [result, if_neg]
      simpa using isNoFailure

/-- A reply either brings a body or is a request that failed. -/
theorem brings_or_failed (outcome : PostOutcome) :
    (∃ body, outcome.Brings body) ∨ outcome.result = .error (.rpc .requestFailed) := by
  cases outcome with
  | failed => exact .inr rfl
  | answered status body =>
      by_cases isFailure : 400 ≤ status ∧ status < 600
      · refine .inr (if_pos ?_)
        simpa using isFailure
      · exact .inl ⟨body, .answered isFailure⟩

/-- The members of a reply have a result if there is no error among them and the result is not
null. -/
theorem memberResult_eq_ok_iff : memberResult members = .ok document ↔
    Keyed.get? "error" members = none ∧ Keyed.get? "result" members = some document ∧
      document ≠ .null := by
  unfold memberResult
  split
  next stated isError => simp [isError]
  next noError =>
    simp only [noError, true_and]
    split
    next isMissing => simp [isMissing]
    next isNull =>
      rw [isNull]
      constructor
      · exact nofun
      · rintro ⟨same, notNull⟩
        exact absurd (Option.some.inj same).symm notNull
    next found notNull isFound =>
      rw [isFound]
      constructor
      · intro same
        obtain rfl := Except.ok.inj same
        exact ⟨rfl, notNull⟩
      · rintro ⟨same, -⟩
        rw [Option.some.inj same]

/-- An error member breaks a reading down if it is no object. -/
theorem remoteFault_eq_broken_iff {stated : Json} : remoteFault stated = .broken cause ↔
    (∀ inner, stated ≠ .obj inner) ∧ cause = .malformedErrorMember := by
  unfold remoteFault
  split
  next inner => simp
  next noObject =>
    constructor
    · intro same
      exact ⟨noObject, (ReadFault.broken.inj same).symm⟩
    · rintro ⟨-, rfl⟩
      rfl

/-- The members of a reply break a reading down if the error among them is no object. -/
theorem memberResult_eq_broken_iff : memberResult members = .error (.broken cause) ↔
    ∃ stated, Keyed.get? "error" members = some stated ∧ (∀ inner, stated ≠ .obj inner) ∧
      cause = .malformedErrorMember := by
  unfold memberResult
  split
  next stated isError => simp [isError, remoteFault_eq_broken_iff]
  next noError =>
    simp only [noError, reduceCtorEq, false_and, exists_false, iff_false]
    split
    next => exact nofun
    next => exact nofun
    next => exact nofun

/-- A reading ends in a document exactly if the reply states it. -/
theorem result_eq_ok_iff : outcome.result = .ok document ↔ outcome.States document := by
  constructor
  · intro isResult
    rcases outcome.brings_or_failed with ⟨body, brings⟩ | failed
    · rw [brings.result_eq, bodyResult] at isResult
      split at isResult
      next => cases isResult
      next => cases isResult
      next members isObject =>
        obtain ⟨noError, isStated, notNull⟩ := memberResult_eq_ok_iff.1 isResult
        exact .result brings isObject noError isStated notNull
      next => cases isResult
    · cases failed.symm.trans isResult
  · rintro ⟨brings, isObject, noError, isStated, notNull⟩
    rw [brings.result_eq, bodyResult, isObject]
    exact memberResult_eq_ok_iff.2 ⟨noError, isStated, notNull⟩

/-- A reading breaks down exactly if the reply breaks it. -/
theorem result_eq_broken_iff :
    outcome.result = .error (.broken cause) ↔ outcome.Breaks cause := by
  constructor
  · intro isResult
    rcases outcome.brings_or_failed with ⟨body, brings⟩ | failed
    · rw [brings.result_eq, bodyResult] at isResult
      split at isResult
      next isDeep =>
        obtain rfl := ReadFault.broken.inj (Except.error.inj isResult)
        exact .tooDeep brings isDeep
      next => cases isResult
      next members isObject =>
        obtain ⟨stated, isError, noObject, rfl⟩ := memberResult_eq_broken_iff.1 isResult
        exact .errorMember brings isObject isError noObject
      next => cases isResult
    · cases failed.symm.trans isResult
  · intro breaks
    cases breaks with
    | tooDeep brings isDeep => rw [brings.result_eq, bodyResult, isDeep]
    | errorMember brings isObject isError noObject =>
        rw [brings.result_eq, bodyResult, isObject]
        exact memberResult_eq_broken_iff.2 ⟨_, isError, noObject, rfl⟩

end PostOutcome

namespace Lookup

/-- What comes of a read: the remembered answer without a request, or what the node replies to the
one request that is sent. Only an answer changes the caches. -/
theorem run_read (node : Query → PostOutcome) (query : Query) (caches : Caches) :
    Dialogue.run node (read query) caches =
      match caches.consult query with
      | some (answer, after) => ⟨.ok answer, after, [], []⟩
      | none =>
          match (node query).result with
          | .ok answer => ⟨.ok answer, caches.remember query answer, [query], []⟩
          | .error fault => ⟨.error (.ofFault fault), caches, [query], []⟩ := by
  change Dialogue.run node (.ask query _) caches = _
  rw [Dialogue.run]
  cases caches.consult query with
  | some hit => rfl
  | none =>
      cases (node query).result with
      | ok answer => rfl
      | error fault =>
          cases fault with
          | rpc error => rfl
          | broken cause => rfl

/-- A read of which no answer is remembered comes to what the reply comes to. -/
theorem value_run_read {node : Query → PostOutcome} {query : Query} {caches : Caches}
    (isNew : caches.consult query = none) :
    (Dialogue.run node (read query) caches).value =
      (node query).result.mapError LookupError.ofFault := by
  rw [run_read, isNew]
  cases (node query).result with
  | ok answer => rfl
  | error fault => rfl

end Lookup

end TokenLens
