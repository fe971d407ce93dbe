import TokenLens.Proofs.Proxy.Race

/-!
# Races and gatherings agree

A search for a first target and a search for all targets of one contract, each on a schedule of its
own, tell the same: the first finds none exactly if the second finds none, and otherwise one of
those that the second finds. The two may differ only where a reply is nested too deeply: all probes
are waited for when they are gathered, so that the breakdown is certain, while a race may be won
before it comes to light.
-/

namespace TokenLens

namespace Proxy

/-- A search for a first target, with so many workers asked for. -/
def Races (node : Query → PostOutcome) (asked : Int) (url address : Text)
    (bytecode : Option Json) (caches : Caches) :
    Except LookupError (Option Text) → List Query → Prop :=
  Searches node url address bytecode caches id (Probe.Races node asked url address)

/-- The outcomes of a race and of a gathering that agree. The last of them is a race that was won
although another probe ends on a reply that is nested too deeply. -/
inductive Agree (answers : Query → Except ReadFault Json) (url address : Text) :
    Except LookupError (Option Text) → Except LookupError (List Text) → Prop where
  | nothing : Agree answers url address (.ok none) (.ok [])
  | found {target : Text} {targets : List Text} (isGathered : target ∈ targets) :
      Agree answers url address (.ok (some target)) (.ok targets)
  | refused (fault : CodeError) :
      Agree answers url address (.error (.code fault)) (.error (.code fault))
  | tooDeep {query : Query} (isDeep : answers query = .error (.broken .tooDeep)) :
      Agree answers url address (.error (.broken .tooDeep)) (.error (.broken .tooDeep))
  | ahead {target : Text}
      (isHeld : target ∈ (Probe.lastAnswers answers url address).filterMap heldAddress?)
      (isDeep : .error (.broken .tooDeep) ∈ Probe.lastAnswers answers url address) :
      Agree answers url address (.ok (some target)) (.error (.broken .tooDeep))

namespace Agree

variable {answers : Query → Except ReadFault Json} {url address : Text}
  {raced : Except LookupError (Option Text)} {gathered : Except LookupError (List Text)}

/-- The race finds nothing exactly if nothing is gathered. -/
theorem none_iff (agree : Agree answers url address raced gathered) :
    raced = .ok none ↔ gathered = .ok [] := by
  cases agree with
  | nothing => simp
  | found isGathered => simpa using List.ne_nil_of_mem isGathered
  | refused fault => simp
  | tooDeep isDeep => simp
  | ahead isHeld isDeep => simp

/-- Where something is gathered, the race finds part of it. -/
theorem exists_mem (agree : Agree answers url address raced gathered) {targets : List Text}
    (isGathered : gathered = .ok targets) (isSome : targets ≠ []) :
    ∃ target ∈ targets, raced = .ok (some target) := by
  cases agree with
  | nothing => exact absurd (Except.ok.inj isGathered).symm isSome
  | found isMember =>
      obtain rfl := Except.ok.inj isGathered
      exact ⟨_, isMember, rfl⟩
  | refused fault => cases isGathered
  | tooDeep isDeep => cases isGathered
  | ahead isHeld isDeep => cases isGathered

/-- Both are refused the code, or none of them. -/
theorem refused_iff (agree : Agree answers url address raced gathered) (fault : CodeError) :
    raced = .error (.code fault) ↔ gathered = .error (.code fault) := by
  cases agree with
  | nothing => simp
  | found isGathered => simp
  | refused fault => simp
  | tooDeep isDeep => simp
  | ahead isHeld isDeep => simp

/-- What may be found and what is gathered agree where both follow from the last answers to the
probes. -/
theorem of_lastAnswers
    (mayFind : Probe.MayFind (Probe.lastAnswers answers url address) raced)
    (concludes : Probe.Concludes (Probe.lastAnswers answers url address) gathered) :
    Agree answers url address raced gathered := by
  cases concludes with
  | listed readable =>
      cases mayFind with
      | won isHeld => exact .found (List.mem_eraseDups.2 isHeld)
      | tooDeep isStated => exact absurd isStated readable
      | lost noneHeld _ =>
          rw [noneHeld]
          exact .nothing
  | tooDeep isStated =>
      cases mayFind with
      | won isHeld => exact .ahead isHeld isStated
      | tooDeep _ =>
          obtain ⟨query, isAnswer⟩ := Probe.exists_query_of_mem_lastAnswers isStated
          exact .tooDeep isAnswer.symm
      | lost _ readable => exact absurd isStated readable

end Agree

variable {node : Query → PostOutcome} {url address : Text} {bytecode : Option Json}
  {caches : Caches}

/-- The search that races the probes one after the other is one of the schedules. -/
theorem exists_races (reflects : caches.Reflects fun query => (node query).result) (asked : Int) :
    ∃ sent, Races node asked url address bytecode caches
      (Dialogue.run node (firstTarget? url address bytecode) caches).value sent := by
  rw [Races, exists_searches_iff reflects, Lookup.value_run reflects, firstTarget?_eq,
    outcome_search]
  cases (codeAt? url address bytecode).outcome fun query => (node query).result with
  | error error => rfl
  | ok code? =>
      dsimp only
      cases unprobed? code? with
      | some target? => rfl
      | none => exact Probe.exists_races (reflects_opening reflects) asked

/-- A search fails over the code of its contract if the code is refused, or if the answer with the
code is nested too deeply. -/
theorem error_of_codeAt? {answers : Query → Except ReadFault Json} {error : LookupError}
    (causes : ∀ query cause, answers query = .error (.broken cause) → cause = .tooDeep)
    (fails : (codeAt? url address bytecode).outcome answers = .error error) :
    (∃ fault, error = .code fault) ∨
      ∃ query, error = .broken .tooDeep ∧ answers query = .error (.broken .tooDeep) := by
  rw [outcome_codeAt?] at fails
  split at fails
  next document _ =>
    cases spelled : Code.ofJson document with
    | ok code =>
        rw [spelled] at fails
        cases fails
    | error fault =>
        rw [spelled] at fails
        exact .inl ⟨fault, (Except.error.inj fails).symm⟩
  next => cases fails
  next cause known =>
    obtain rfl := Except.error.inj fails
    cases bytecode with
    | some bytecode => cases known
    | none =>
        obtain rfl := causes _ cause known
        exact .inr ⟨_, rfl, known⟩

/-- Whatever their schedules, a race and a gathering of one contract agree. -/
theorem Races.agree {raced : Except LookupError (Option Text)}
    {gathered : Except LookupError (List Text)} {others : Caches} {asked askedToo : Int}
    {sent sentToo : List Query} (objects : HasErrorObjects node)
    (reflects : caches.Reflects fun query => (node query).result)
    (reflectsToo : others.Reflects fun query => (node query).result)
    (races : Races node asked url address bytecode caches raced sent)
    (gathers : Gathers node askedToo url address bytecode others gathered sentToo) :
    Agree (fun query => (node query).result) url address raced gathered := by
  -- Both searches start with the same code, whatever their caches held of the node before.
  have racedEnd := (exists_searches_iff reflects).1 ⟨sent, races⟩
  have gatheredEnd := (exists_searches_iff reflectsToo).1 ⟨sentToo, gathers⟩
  cases opens : (codeAt? url address bytecode).outcome fun query => (node query).result with
  | error error =>
      simp only [opens] at racedEnd gatheredEnd
      subst racedEnd gatheredEnd
      rcases error_of_codeAt? (fun query cause broken => objects.cause_eq broken) opens with
        ⟨fault, rfl⟩ | ⟨query, rfl, isDeep⟩
      · exact .refused fault
      · exact .tooDeep isDeep
  | ok code? =>
      simp only [opens] at racedEnd gatheredEnd
      cases settles : unprobed? code? with
      | some target? =>
          simp only [settles] at racedEnd gatheredEnd
          subst racedEnd gatheredEnd
          cases target? with
          | none => exact .nothing
          | some target => exact .found (List.mem_singleton_self target)
      | none =>
          simp only [settles] at racedEnd gatheredEnd
          obtain ⟨racing, probesRace⟩ := racedEnd
          have concludes := (Probe.exists_gathers_iff (reflects_opening reflectsToo)).1 gatheredEnd
          subst concludes
          exact .of_lastAnswers
            (Probe.mayFind_of_races objects (reflects_opening reflects) probesRace)
            (Probe.concludes_gather fun query cause broken => objects.cause_eq broken)

/-- What holds of the two searches for targets of one contract, whatever their schedules: each comes
to its end, the ends agree, and code that names its target makes both end with that target, after no
other request than one for code. -/
structure SearchesAgree (node : Query → PostOutcome) (url address : Text) (bytecode : Option Json)
    (caches others : Caches) : Prop where
  raceEnds (asked : Int) : EndsWithin (Race.Moves node (Probe.workers asked)) Race.IsOver 63
    (.start (Probe.pool url address (opening node url address bytecode caches).caches))
  raceRuns (asked : Int) : ∃ sent, Races node asked url address bytecode caches
    (Dialogue.run node (firstTarget? url address bytecode) caches).value sent
  gatherEnds (asked : Int) : EndsWithin (Pool.Moves node (Probe.workers asked)) Pool.IsFinished 56
    (Probe.pool url address (opening node url address bytecode others).caches)
  gatherRuns (asked : Int) : ∃ sent, Gathers node asked url address bytecode others
    (Dialogue.run node (targets url address bytecode) others).value sent
  agree {asked askedToo raced gathered sent sentToo}
    (races : Races node asked url address bytecode caches raced sent)
    (gathers : Gathers node askedToo url address bytecode others gathered sentToo) :
    Agree (fun query => (node query).result) url address raced gathered ∧
      (raced = .ok none ↔ gathered = .ok []) ∧
      (∀ targets, gathered = .ok targets → targets ≠ [] →
        ∃ target ∈ targets, raced = .ok (some target)) ∧
      ∀ fault, raced = .error (.code fault) ↔ gathered = .error (.code fault)
  named {asked askedToo raced gathered sent sentToo document code finding target}
    (races : Races node asked url address bytecode caches raced sent)
    (gathers : Gathers node askedToo url address bytecode others gathered sentToo)
    (known : codeAnswer (fun query => (node query).result) url address bytecode = .ok document)
    (spelled : Code.ofJson document = .ok code) (isFound : code.finding? = some finding)
    (names : finding.target? = some target) :
    raced = .ok (some target) ∧ gathered = .ok [target] ∧
      ∀ query ∈ sent ++ sentToo, query.read.isCode = true

end Proxy

end TokenLens
