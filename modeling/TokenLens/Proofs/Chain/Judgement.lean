import TokenLens.Proofs.Chain.Extension
import TokenLens.Proofs.Proxy.Courses
import TokenLens.Proofs.Verdict.Winner

/-!
# Judgements that lose only their root

A contract is judged by its own code if that fits a standard, and otherwise by a walk, in which many
requests may fail. All of these failures are absorbed where they arise: the judgement ends in an
error of the node exactly if the code of the contract itself cannot be had. This holds of a node
that changes its mind, and for any number of workers and order of their requests, since a judgement
on any schedule is a conversation of the judgement that goes one after the other
(`Chain.schedules_judgeCourse`). A reply that is nested too deeply is the exception: nothing absorbs
it.
-/

namespace TokenLens

variable {node : List Reading → Query → PostOutcome} {past : List Reading}

namespace WalkPlan

/-- The course of a turn: the targets are found on some schedule, and followed one after the
other. -/
def expandCourse (plan : WalkPlan) (node : List Reading → Query → PostOutcome) (asked : Int)
    (visit : Visit) (walk : Walk) : Course Walk := do
  let targets ← Proxy.targetsCourse node asked plan.url visit.address visit.code
  (plan.followAll visit.address targets walk).course node

/-- The course of a number of turns. -/
def continueCourse (plan : WalkPlan) (node : List Reading → Query → PostOutcome) (asked : Int) :
    Nat → Walk → Course Walk
  | 0, walk => pure walk
  | turns + 1, walk =>
      match walk.pending with
      | [] => pure walk
      | next :: rest => do
          let walk ← plan.expandCourse node asked next { walk with pending := rest }
          plan.continueCourse node asked turns walk

/-- A turn is scheduled by its course. -/
theorem schedules_expandCourse (plan : WalkPlan) (asked : Int) (visit : Visit) (walk : Walk) :
    (plan.expandCourse node asked visit walk).Schedules node past (plan.expand visit walk) :=
  (Proxy.schedules_targetsCourse asked visit.code).bind fun _ => Course.schedules_course _

/-- Turns are scheduled by their course. -/
theorem schedules_continueCourse (plan : WalkPlan) (asked : Int) (turns : Nat) (walk : Walk) :
    (plan.continueCourse node asked turns walk).Schedules node past
      (plan.continueFor turns walk) := by
  induction turns generalizing walk with
  | zero => exact Course.schedules_pure walk
  | succ turns inductionHypothesis =>
      unfold continueCourse continueFor
      cases walk.pending with
      | nil => exact Course.schedules_pure walk
      | cons next rest =>
          exact (plan.schedules_expandCourse asked next _).bind inductionHypothesis

end WalkPlan

namespace Chain

/-- The course of a walk from a contract whose code is at hand. -/
def resolveCourse (node : List Reading → Query → PostOutcome) (asked : Int) (url address : Text)
    (code : Code) (bound : Int) (registry : Registry) : Course Resolution := do
  let plan : WalkPlan := ⟨Text.lower address, bound, url⟩
  let walk ← plan.continueCourse node asked plan.mostVisits (.start ⟨plan.root, code⟩)
  return walk.resolution plan.root registry

/-- The course of a judgement: the node is asked for the code of the contract first, and may change
with every request after that. -/
def judgeCourse (node : List Reading → Query → PostOutcome) (past : List Reading) (asked : Int)
    (url address : Text) (bytecode : Option Json) (bound : Int) (registry : Registry) :
    Course (Option Text) := do
  let code ← (codeAt url address bytecode).courseAt (node past)
  match registry.bestByPoints (Text.mentions code.text) with
  | some label => return some label
  | none => return (← resolveCourse node asked url address code bound registry).standard

/-- A walk is scheduled by its course. -/
theorem schedules_resolveCourse (asked : Int) (url address : Text) (code : Code) (bound : Int)
    (registry : Registry) :
    (resolveCourse node asked url address code bound registry).Schedules node past
      (resolve url address code bound registry) :=
  (WalkPlan.schedules_continueCourse _ asked _ _).bind fun _ => Course.schedules_pure _

/-- A judgement is scheduled by its course. -/
theorem schedules_judgeCourse (asked : Int) (url address : Text) (bytecode : Option Json)
    (bound : Int) (registry : Registry) :
    (judgeCourse node past asked url address bytecode bound registry).Schedules node past
      (standardAt url address bytecode bound registry) := by
  refine (Course.schedules_courseAt (codeAt url address bytecode)).bind fun code => ?_
  cases registry.bestByPoints (Text.mentions code.text) with
  | some label => exact Course.schedules_pure (some label)
  | none =>
      exact (schedules_resolveCourse asked url address code bound registry).bind fun _ =>
        Course.schedules_pure _

/-! ## The code of the contract itself -/

/-- The document with the code of a contract: the one that was handed over, else the one that is
remembered, else what the node makes of the query for it. -/
def ownDocument (replies : Query → PostOutcome) (url address : Text) (bytecode : Option Json)
    (caches : Caches) : Except ReadFault Json :=
  match bytecode, caches.consult ⟨url, .code address⟩ with
  | some document, _ => .ok document
  | none, some (document, _) => .ok document
  | none, none => (replies ⟨url, .code address⟩).result

/-- To spell out code is to send nothing. -/
theorem run_codeOf (replies : Query → PostOutcome) (document : Json) (caches : Caches) :
    Dialogue.run replies (Lookup.codeOf document) caches =
      ⟨(Code.ofJson document).mapError .code, caches, [], []⟩ := by
  unfold Lookup.codeOf
  cases Code.ofJson document with
  | ok code => rfl
  | error fault => rfl

/-- Code that is not handed over is asked for by one query. -/
theorem codeAt_none (url address : Text) :
    codeAt url address none = (Dialogue.ask ⟨url, .code address⟩ fun
      | .ok document => Lookup.codeOf document
      | .error fault => .done (.error (.ofFault fault)) : Lookup Code) := by
  refine congrArg (Dialogue.ask _) (funext fun answer => ?_)
  match answer with
  | .ok document => rfl
  | .error (.rpc error) => rfl
  | .error (.broken cause) => rfl

/-- The first step of a judgement ends in what the document with the code comes to, and sends no
request but one for that code. -/
theorem run_codeAt (replies : Query → PostOutcome) (url address : Text) (bytecode : Option Json)
    (caches : Caches) :
    let exchange := Dialogue.run replies (codeAt url address bytecode) caches
    exchange.value = (match ownDocument replies url address bytecode caches with
      | .ok document => (Code.ofJson document).mapError .code
      | .error fault => .error (.ofFault fault)) ∧
    exchange.sent.Sublist [⟨url, .code address⟩] ∧ (bytecode ≠ none → exchange.sent = []) := by
  cases bytecode with
  | some document => simp [codeAt, run_codeOf, ownDocument]
  | none =>
      rw [codeAt_none]
      cases consulted : caches.consult ⟨url, .code address⟩ with
      | some entry => simp [Dialogue.run, consulted, run_codeOf, ownDocument]
      | none =>
          cases replied : (replies ⟨url, .code address⟩).result with
          | ok document => simp [Dialogue.run, consulted, replied, run_codeOf, ownDocument]
          | error fault => simp [Dialogue.run, consulted, replied, ownDocument]

/-- Before a proper node, the document with the code of a contract spells code. -/
theorem spelled_ownDocument (proper : IsProper node) {url address : Text}
    {bytecode : Option Json} {caches : Caches}
    (valid : ∀ document, bytecode = some document → ∃ code, Code.ofJson document = .ok code)
    (only : caches.Only (Stated node)) {document : Json}
    (known : ownDocument (node past) url address bytecode caches = .ok document) :
    ∃ code, Code.ofJson document = .ok code := by
  unfold ownDocument at known
  split at known
  next handedOver _ =>
    obtain rfl := Except.ok.inj known
    exact valid _ rfl
  next remembered _ consulted =>
    obtain rfl := Except.ok.inj known
    obtain ⟨earlier, stated⟩ := (only.consult consulted).1
    exact proper.spelled earlier _ _ rfl stated
  next => exact proper.spelled past _ _ rfl known

/-- A walk on any schedule fails only by a reply that is nested too deeply. -/
theorem tooDeep_of_resolveCourse (proper : IsProper node) {asked : Int} {url address : Text}
    {code : Code} {bound : Int} {registry : Registry} {session after : Session}
    {error : LookupError} (only : session.caches.Only (Stated node))
    (fails : resolveCourse node asked url address code bound registry session (.error error)
      after) :
    error = .broken .tooDeep ∧
      ∃ past query, (node past query).result = .error (.broken .tooDeep) := by
  have schedules : (resolveCourse node asked url address code bound registry).Schedules node []
      (resolve url address code bound registry) :=
    schedules_resolveCourse asked url address code bound registry
  obtain ⟨-, readings, areReplies, conversation⟩ := schedules.takesPlace only fails
  rcases takesPlace_resolve conversation with ⟨_, _, isOk, -⟩ | ⟨_, isError, stems⟩
  · cases isOk
  · obtain rfl := Except.error.inj isError
    obtain ⟨isTooDeep, query, isRead⟩ := stems.eq_tooDeep (proper.areProper areReplies)
    obtain ⟨earlier, isReply⟩ := areReplies _ isRead
    exact ⟨isTooDeep, earlier, query, isReply.symm⟩

/-- The node fails to tell the code of a contract if that was not handed over, is not remembered,
and the reply to the query for it is a failure. -/
theorem ownDocument_eq_error_iff {replies : Query → PostOutcome} {url address : Text}
    {bytecode : Option Json} {caches : Caches} {fault : ReadFault} :
    ownDocument replies url address bytecode caches = .error fault ↔
      bytecode = none ∧ caches.consult ⟨url, .code address⟩ = none ∧
        (replies ⟨url, .code address⟩).result = .error fault := by
  unfold ownDocument
  split
  next => simp
  next consulted => simp [consulted]
  next consulted => simp [consulted]

/-- What a judgement may come to, given the document with the code of the contract. -/
theorem cases_judgeCourse (proper : IsProper node) {asked : Int} {url address : Text}
    {bytecode : Option Json}
    (valid : ∀ document, bytecode = some document → ∃ code, Code.ofJson document = .ok code)
    {bound : Int} {registry : Registry} {session after : Session}
    {outcome : Except LookupError (Option Text)} (only : session.caches.Only (Stated node))
    (goes : judgeCourse node past asked url address bytecode bound registry session outcome after) :
    let own := ownDocument (node past) url address bytecode session.caches
    (∃ fault, own = .error fault ∧ outcome = .error (.ofFault fault)) ∨
      ∃ document code, own = .ok document ∧ Code.ofJson document = .ok code ∧
        ((∃ label, registry.bestByPoints (Text.mentions code.text) = some label ∧
          outcome = .ok (some label) ∧ ∃ sent, after.sent = session.sent ++ sent ∧
            sent.Sublist [⟨url, .code address⟩] ∧ (bytecode ≠ none → sent = [])) ∨
        registry.bestByPoints (Text.mentions code.text) = none ∧
          ((∃ label?, outcome = .ok label?) ∨ outcome = .error (.broken .tooDeep) ∧
            ∃ past query, (node past query).result = .error (.broken .tooDeep))) := by
  intro own
  obtain ⟨isValue, fewSent, noneSent⟩ := run_codeAt (node past) url address bytecode session.caches
  have schedules : ((codeAt url address bytecode).courseAt (node past)).Schedules node past
      (codeAt url address bytecode) := Course.schedules_courseAt _
  have onlyThen := (schedules.takesPlace only (schedules.admits session)).1
  cases isOwn : own with
  | error fault =>
      simp only [show ownDocument _ _ _ _ _ = _ from isOwn] at isValue
      rcases goes with ⟨error, rfl, isError, -⟩ | ⟨code, middle, ⟨isOk, -⟩, -⟩
      · rw [isValue] at isError
        exact .inl ⟨fault, rfl, congrArg _ (Except.error.inj isError)⟩
      · cases isOk.trans isValue
  | ok document =>
      obtain ⟨code, spelled⟩ := spelled_ownDocument proper valid only isOwn
      simp only [show ownDocument _ _ _ _ _ = _ from isOwn, spelled, Except.mapError] at isValue
      refine .inr ⟨document, code, rfl, spelled, ?_⟩
      rcases goes with ⟨error, rfl, isError, -⟩ | ⟨known, middle, ⟨isOk, rfl⟩, goesOn⟩
      · cases isError.trans isValue
      · obtain rfl := Except.ok.inj (isOk.trans isValue)
        cases chosen : registry.bestByPoints (Text.mentions known.text) with
        | some label =>
            simp only [chosen] at goesOn
            obtain ⟨rfl, rfl⟩ := goesOn
            exact .inl ⟨label, rfl, rfl, _, rfl, fewSent, noneSent⟩
        | none =>
            simp only [chosen] at goesOn
            refine .inr ⟨rfl, ?_⟩
            rcases goesOn with ⟨error, rfl, fails⟩ | ⟨resolution, last, -, rfl, -⟩
            · obtain ⟨rfl, deep⟩ := tooDeep_of_resolveCourse proper onlyThen fails
              exact .inr ⟨rfl, deep⟩
            · exact .inl ⟨_, rfl⟩

/-- What it means for a judgement to lose nothing but its root, on any schedule of its requests. -/
structure LosesOnlyRoot (node : List Reading → Query → PostOutcome) (past : List Reading)
    (asked : Int) (url address : Text) (bytecode : Option Json) (bound : Int) (registry : Registry)
    (session : Session) : Prop where
  /-- The judgement that runs its probes one after the other is one of the schedules. -/
  runs :
    let lookup := standardAt url address bytecode bound registry
    let exchange := Dialogue.run (node past) lookup session.caches
    judgeCourse node past asked url address bytecode bound registry session exchange.value
      (session.after exchange)
  /-- Probes that workers have taken up neither go on for ever nor get stuck. -/
  probesEnd (pool : Pool ProbeOutcome) :
    Acc (fun next pool => pool.MovesChanging node (Probe.workers asked) next) pool ∧
      (pool.IsFinished ∨ ∃ next, pool.MovesChanging node (Probe.workers asked) next)
  /-- The judgement ends in an error of the node just if the node fails to tell the code of the
  contract. -/
  rpc_iff {outcome : Except LookupError (Option Text)} {after : Session}
    (goes : judgeCourse node past asked url address bytecode bound registry session outcome after)
    (error : RpcError) : outcome = .error (.rpc error) ↔
      bytecode = none ∧ session.caches.consult ⟨url, .code address⟩ = none ∧
        (node past ⟨url, .code address⟩).result = .error (.rpc error)
  /-- Else it ends in a label or in none, or a reply was nested too deeply. -/
  otherwise {outcome : Except LookupError (Option Text)} {after : Session}
    (goes : judgeCourse node past asked url address bytecode bound registry session outcome after)
    (others : ∀ error, outcome ≠ .error (.rpc error)) : (∃ label?, outcome = .ok label?) ∨
      outcome = .error (.broken .tooDeep) ∧
        ∃ past query, (node past query).result = .error (.broken .tooDeep)
  /-- A label of the code of the contract itself is the label, and no request was sent for it but
  one for that code, if that was not handed over. -/
  own {outcome : Except LookupError (Option Text)} {after : Session}
    (goes : judgeCourse node past asked url address bytecode bound registry session outcome after)
    {document : Json} {code : Code} {label : Text}
    (known : ownDocument (node past) url address bytecode session.caches = .ok document)
    (spelled : Code.ofJson document = .ok code)
    (wins : registry.IsWinner (Text.mentions code.text) (some label)) :
    outcome = .ok (some label) ∧ ∃ sent, after.sent = session.sent ++ sent ∧
      sent.Sublist [⟨url, .code address⟩] ∧ (bytecode ≠ none → sent = [])

end Chain

end TokenLens
