import TokenLens.Proofs.Json.Texts
import TokenLens.Proofs.Node.Lookup
import TokenLens.Proofs.Verdict.Consistency
import TokenLens.Service.Serve

/-!
# What a response may hold

Whatever is asked for and whatever a node answers, the status of the response is one of HTTP, and
the standard that it names, if it is served and names any, is one that is bundled
(`Service.isUsual_answer`).
-/

namespace TokenLens

namespace Registry

variable {present : Text → Bool} {registry : Registry} {strategy : Strategy} {threshold : Number}

/-- A label, if there is one, is that of a standard of the registry. -/
def Knows (registry : Registry) (label? : Option Text) : Prop :=
  ∀ label ∈ label?, ∃ standard ∈ registry.standards, standard.label = label

/-- The label that points choose is that of a standard. -/
theorem knows_bestByPoints : registry.Knows (registry.bestByPoints present) := by
  intro label chosen
  obtain ⟨winner, ⟨before, after, split, -⟩, isLabel⟩ :=
    isWinner_some_iff.1 (isWinner_iff.2 chosen)
  exact ⟨winner, by simp [split], isLabel⟩

/-- The label that a strategy chooses is that of a standard. -/
theorem knows_best : registry.Knows (registry.best present strategy threshold) := by
  cases strategy with
  | minMax => exact knows_bestByPoints
  | percent =>
      intro label chosen
      obtain ⟨winner, isFirst, -, isLabel⟩ := bestByPercent_eq_some_iff.1 chosen
      exact ⟨winner, isFirst.isStandard, isLabel⟩

end Registry

/-- The label of a contract at an address is that of a standard. -/
theorem Chain.knows_standardAt {url address : Text} {bytecode : Option Json} {bound : Int}
    {registry : Registry} {readings : List Reading} {label? : Option Text}
    (conversation : (standardAt url address bytecode bound registry).TakesPlace readings
      (.ok label?)) : registry.Knows label? := by
  obtain ⟨_, _, code, -, -, judged⟩ := Lookup.takesPlace_bind_ok_iff.1 conversation
  split at judged
  next label chosen =>
    obtain ⟨-, isLabel⟩ := Lookup.takesPlace_pure_iff.1 judged
    obtain rfl := Except.ok.inj isLabel
    exact chosen ▸ Registry.knows_bestByPoints
  next =>
    obtain ⟨_, _, resolution, -, resolved, rest⟩ := Lookup.takesPlace_bind_ok_iff.1 judged
    obtain ⟨-, isLabel⟩ := Lookup.takesPlace_pure_iff.1 rest
    obtain rfl := Except.ok.inj isLabel
    obtain ⟨_, _, walk, -, -, rest⟩ := Lookup.takesPlace_bind_ok_iff.1 resolved
    obtain ⟨-, isResolution⟩ := Lookup.takesPlace_pure_iff.1 rest
    obtain rfl := Except.ok.inj isResolution
    exact Registry.knows_bestByPoints

/-- What a response may name as the standard: nothing, or the label of a bundled standard. -/
def Json.NamesStandard (document : Json) : Prop :=
  document = .null ∨ ∃ standard ∈ Registry.bundled.standards, document = .str standard.label

/-- A label that the bundled registry knows may be named. -/
theorem Registry.Knows.namesStandard {label? : Option Text} (known : bundled.Knows label?) :
    (Service.optionalText label?).NamesStandard := by
  cases label? with
  | none => exact .inl rfl
  | some label =>
      obtain ⟨standard, isStandard, rfl⟩ := known label rfl
      exact .inr ⟨standard, isStandard, rfl⟩

namespace Response

/-- A response with a status of HTTP that names no standard but a bundled one. -/
structure IsUsual (response : Response) : Prop where
  status : response.status < 600
  standard : ∀ standard ∈ LogEntry.standardOf response, standard.NamesStandard

variable {response : Response} {members : List (Text × Json)}

/-- A response that says that a request was not served names no standard. -/
theorem isUsual_of_status (small : response.status < 600) (notServed : response.status ≠ 200) :
    response.IsUsual := by
  refine ⟨small, fun standard isStandard => ?_⟩
  unfold LogEntry.standardOf at isStandard
  split at isStandard
  next isServed _ => exact absurd isServed notServed
  next => cases isStandard

/-- A page names no standard. -/
theorem isUsual_page {status : Nat} (small : status < 600) : (page status).IsUsual := by
  refine ⟨small, fun standard isStandard => ?_⟩
  unfold LogEntry.standardOf at isStandard
  split at isStandard
  next _ isDocument => cases isDocument
  next => cases isStandard

/-- A document that is served may name a standard, and names nothing if it has no member for it. -/
theorem isUsual_document (named : ∀ standard ∈ Keyed.get? "standard" members,
    standard.NamesStandard) : (document 200 (.obj members)).IsUsual := by
  refine ⟨show 200 < 600 by decide, fun standard isStandard => ?_⟩
  change some ((Keyed.get? "standard" members).getD .null) = some standard at isStandard
  obtain rfl := Option.some.inj isStandard
  cases found : Keyed.get? "standard" members with
  | none => exact .inl rfl
  | some standard => exact named standard found

/-- A document without a member for the standard names none. -/
theorem isUsual_unnamed (unnamed : Keyed.get? "standard" members = none) :
    (document 200 (.obj members)).IsUsual := by
  refine isUsual_document ?_
  rw [unnamed]
  simp

/-- The statuses of responses that say why a request was not served. -/
theorem status_ofError (fault : RequestError) : (ofError fault).status ∈ [422, 500, 502] := by
  cases fault with
  | input fault =>
      cases isBroken : fault.breakdown? with
      | some cause => simp [ofError, isBroken, page]
      | none => simp [ofError, isBroken, refusal, document]
  | lookup fault => cases fault <;> simp [ofError, refusal, document, page]
  | _ => simp [ofError, refusal, document, page]

/-- A response that says why a request was not served. -/
theorem isUsual_ofError (fault : RequestError) : (ofError fault).IsUsual := by
  have listed : ∀ status ∈ [422, 500, 502], status < 600 ∧ status ≠ 200 := by decide
  obtain ⟨small, notServed⟩ := listed _ (status_ofError fault)
  exact isUsual_of_status small notServed

/-- A response to what may not have been served. -/
theorem isUsual_ofOutcome {outcome : Except RequestError Json}
    (served : ∀ body, outcome = .ok body → (document 200 body).IsUsual) :
    (ofOutcome outcome).IsUsual := by
  cases outcome with
  | ok body => exact served body rfl
  | error fault => exact isUsual_ofError fault

end Response

namespace Service

open Response

variable {request : Request} {readings : List Reading} {response : Response}

/-- A document whose member for the standard is a label that is known. -/
theorem isUsual_standard {label? : Option Text} {members : List (Text × Json)}
    (known : Registry.bundled.Knows label?)
    (isMember : Keyed.get? "standard" members = some (optionalText label?)) :
    (document 200 (.obj members)).IsUsual := by
  refine isUsual_document fun standard isStandard => ?_
  obtain rfl := Option.some.inj (isMember.symm.trans isStandard)
  exact known.namesStandard

/-- What is answered about an ABI. -/
theorem isUsual_classifyAbi (request : Request) : (ofOutcome (classifyAbi request)).IsUsual := by
  refine isUsual_ofOutcome fun body computed => ?_
  obtain ⟨members, -, computed⟩ := exists_of_bind_eq_ok computed
  obtain ⟨abi, -, computed⟩ := exists_of_bind_eq_ok computed
  obtain ⟨threshold, -, computed⟩ := exists_of_bind_eq_ok computed
  obtain ⟨strategy, -, computed⟩ := exists_of_bind_eq_ok computed
  obtain ⟨label?, classified, computed⟩ := exists_of_bind_eq_ok computed
  obtain ⟨selectors, -, computed⟩ := exists_of_bind_eq_ok computed
  obtain rfl := Except.ok.inj computed
  obtain ⟨_, -, rfl⟩ := exists_of_classifyAbi_eq_ok (eq_ok_of_mapError_eq_ok classified)
  exact isUsual_standard Registry.knows_best rfl

/-- What is answered about code. -/
theorem isUsual_classifyBytecode (request : Request) :
    (ofOutcome (classifyBytecode request)).IsUsual := by
  refine isUsual_ofOutcome fun body computed => ?_
  obtain ⟨members, -, computed⟩ := exists_of_bind_eq_ok computed
  obtain ⟨bytecode, -, computed⟩ := exists_of_bind_eq_ok computed
  obtain ⟨threshold, -, computed⟩ := exists_of_bind_eq_ok computed
  obtain ⟨strategy, -, computed⟩ := exists_of_bind_eq_ok computed
  obtain ⟨verdict, classified, computed⟩ := exists_of_bind_eq_ok computed
  obtain rfl := Except.ok.inj computed
  obtain ⟨_, -, isLabel⟩ := exists_of_classifyCode_eq_ok (eq_ok_of_mapError_eq_ok classified)
  rw [isLabel]
  exact isUsual_standard Registry.knows_best rfl

/-- What is answered about the selectors of a contract. -/
theorem isUsual_signatures (request : Request) : (ofOutcome (signatures request)).IsUsual := by
  refine isUsual_ofOutcome fun body computed => ?_
  obtain ⟨selectors, -, computed⟩ := exists_of_bind_eq_ok computed
  obtain rfl := Except.ok.inj computed
  refine isUsual_unnamed ?_
  rw [Keyed.get?, if_neg (by decide), Keyed.get?]

/-- What is answered about an address is usual if every document that is looked up is. -/
theorem isUsual_aboutAddress {lookup : Text → Lookup Json}
    (served : ∀ address readings body, (lookup address).TakesPlace readings (.ok body) →
      (document 200 body).IsUsual)
    (conversation : (aboutAddress request lookup).TakesPlace readings response) :
    response.IsUsual := by
  unfold aboutAddress at conversation
  split at conversation
  next fault _ =>
    obtain ⟨-, rfl⟩ := Dialogue.takesPlace_pure_iff.1 conversation
    exact isUsual_ofError fault
  next address _ =>
    obtain ⟨earlier, later, outcome, -, looked, rest⟩ :=
      Dialogue.takesPlace_bind_iff.1 conversation
    obtain ⟨-, rfl⟩ := Dialogue.takesPlace_pure_iff.1 rest
    refine isUsual_ofOutcome fun body isBody => ?_
    obtain rfl := eq_ok_of_mapError_eq_ok isBody
    exact served address earlier body looked

/-- What is answered about the standard of a contract. -/
theorem isUsual_classifyAddress {settings : Settings}
    (conversation : (aboutAddress request (classifyAddress settings)).TakesPlace readings
      response) : response.IsUsual := by
  refine isUsual_aboutAddress (fun address readings body looked => ?_) conversation
  obtain ⟨_, _, label?, -, found, rest⟩ := Lookup.takesPlace_bind_ok_iff.1 looked
  obtain ⟨-, isBody⟩ := Lookup.takesPlace_pure_iff.1 rest
  obtain rfl := Except.ok.inj isBody
  refine isUsual_standard (Chain.knows_standardAt found) ?_
  rw [Keyed.get?, if_neg (by decide), Keyed.get?, if_pos rfl]

/-- What is answered about the delegation of a contract. -/
theorem isUsual_inspectProxy {url : Text}
    (conversation : (aboutAddress request (inspectProxy url)).TakesPlace readings response) :
    response.IsUsual := by
  refine isUsual_aboutAddress (fun address readings body looked => ?_) conversation
  obtain ⟨_, _, bytecode, -, -, looked⟩ := Lookup.takesPlace_bind_ok_iff.1 looked
  obtain ⟨_, _, code, -, -, looked⟩ := Lookup.takesPlace_bind_ok_iff.1 looked
  obtain ⟨_, _, target, -, -, rest⟩ := Lookup.takesPlace_bind_ok_iff.1 looked
  obtain ⟨-, isBody⟩ := Lookup.takesPlace_pure_iff.1 rest
  obtain rfl := Except.ok.inj isBody
  refine isUsual_unnamed ?_
  rw [Keyed.get?, if_neg (by decide), Keyed.get?, if_neg (by decide), Keyed.get?,
    if_neg (by decide), Keyed.get?]

/-- What is answered about the request log. -/
theorem isUsual_stats (journal : Option Journal) : (stats journal).IsUsual := by
  unfold stats
  split
  next journal =>
    unfold Journal.report
    split
    next entries =>
      refine isUsual_unnamed ?_
      rw [Keyed.get?, if_neg (by decide), Keyed.get?, if_neg (by decide), Keyed.get?,
        if_neg (by decide), Keyed.get?]
    next => exact isUsual_page (by decide)
  next => exact isUsual_of_status (show 501 < 600 by decide) (show 501 ≠ 200 by decide)

/-- Whatever is asked for and whatever a node answers, the response is usual. -/
theorem isUsual_answer {settings : Settings} {journal : Option Journal}
    (conversation : (answer settings journal request).TakesPlace readings response) :
    response.IsUsual := by
  have done {given : Response} (usual : given.IsUsual)
      (conversation : (pure given : Dialogue Response).TakesPlace readings response) :
      response.IsUsual := by
    obtain ⟨-, rfl⟩ := Dialogue.takesPlace_pure_iff.1 conversation
    exact usual
  unfold answer at conversation
  split at conversation
  next route _ =>
    cases route with
    | health =>
        refine done (isUsual_unnamed ?_) conversation
        rw [Keyed.get?, if_neg (by decide), Keyed.get?]
    | stats => exact done (isUsual_stats journal) conversation
    | classifyAbi => exact done (isUsual_classifyAbi request) conversation
    | classifyBytecode => exact done (isUsual_classifyBytecode request) conversation
    | classifyAddress => exact isUsual_classifyAddress conversation
    | proxy => exact isUsual_inspectProxy conversation
    | signatures => exact done (isUsual_signatures request) conversation
    | file => exact done (isUsual_page (by decide)) conversation
  all_goals exact done (isUsual_page (by decide)) conversation

end Service

end TokenLens
