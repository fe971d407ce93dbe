import TokenLens.Proofs.Chain.Bounds
import TokenLens.Proofs.Node.Forgiving

/-!
# Walks past code that cannot be had

A target whose code cannot be had should count as a contract without code, and the walk should go on
as if the node had said so. It does where the node fails to tell (`Lookup.codeIn`), but a walk ends
at a document that spells no code. Up to the first such document the walk is the one before the node
made forgiving; and that one settles whatever the node states as code, visits every target whose
code was asked for, and leaves it without code where none can be had (`Walk.VisitsAsked`).
-/

namespace TokenLens

/-- Where code can be had, an answer stands for itself. -/
theorem forgivenAnswer_of_hasCode {query : Query} {answer : Except ReadFault Json}
    (hasCode : lacksCode answer = false) : forgivenAnswer query answer = answer := by
  simp [forgivenAnswer, hasCode]

/-- Where no code can be had, the answer is that there is none. -/
theorem codeIn_of_lacksCode {query : Query} {answer : Except ReadFault Json}
    (isCode : query.read.isCode = true) (lacks : lacksCode answer = true) :
    Lookup.codeIn (forgivenAnswer query answer) = .ok .empty := by
  rw [forgivenAnswer, isCode, lacks]
  rfl

namespace WalkPlan

variable {plan : WalkPlan} {node : List Query → Query → PostOutcome} {source target : Text}
  {walk : Walk}

/-- To fetch code is one query for it. -/
theorem converse_fetch (answers : List Reading → Query → Except ReadFault Json)
    (past : List Reading) :
    (plan.fetch target).converse answers past =
      let answer := answers past ⟨plan.url, .code target⟩
      ([⟨⟨plan.url, .code target⟩, answer⟩], Lookup.codeIn answer) := by
  have conversation := Dialogue.takesPlace_converse answers past (plan.fetch target)
  obtain ⟨answer, isReading, isOutcome⟩ := takesPlace_fetch_iff.1 conversation
  have isAsked : ∃ rest, (Dialogue.converse answers past (plan.fetch target)).1 =
      ⟨⟨plan.url, .code target⟩, answers past ⟨plan.url, .code target⟩⟩ :: rest := ⟨_, rfl⟩
  obtain ⟨rest, isAsked⟩ := isAsked
  obtain ⟨same, rfl⟩ := List.cons.inj (isReading.symm.trans isAsked)
  obtain ⟨-, rfl⟩ := Reading.mk.inj same
  exact Prod.ext isReading isOutcome

/-- A fetch is forgiven. -/
theorem isForgiven_fetch : Lookup.IsForgiven node (plan.fetch target) := by
  intro past
  rw [converse_fetch, converse_fetch, answersOf_forgiving]
  dsimp only
  have isCode : (⟨plan.url, .code target⟩ : Query).read.isCode = true := rfl
  generalize (⟨plan.url, .code target⟩ : Query) = query at isCode ⊢
  have stands : [⟨query, forgivenAnswer query (answersOf node past query)⟩] =
      [(⟨query, answersOf node past query⟩ : Reading)].map Reading.forgiven := rfl
  rw [stands]
  generalize answersOf node past query = answer
  cases lacks : lacksCode answer with
  | false =>
      rw [forgivenAnswer_of_hasCode lacks]
      refine .alike (List.forall_mem_singleton.2 fun _ document stated => ?_)
      obtain rfl : answer = .ok document := stated
      exact spelled_of_hasCode lacks
  | true =>
      rw [codeIn_of_lacksCode isCode lacks]
      cases answer with
      | ok document =>
          cases spelled : Code.ofJson document with
          | ok code => simp [lacksCode, spelled, Except.toOption] at lacks
          | error fault =>
              have fails : Lookup.codeIn (.ok document) = .error (.code fault) := by
                simp [Lookup.codeIn, spelled, Except.mapError]
              rw [fails]
              exact @Forgiven.refused _ [] [] _ _ _ _ (List.forall_mem_nil _) isCode rfl spelled
      | error fault =>
          cases fault with
          | rpc error =>
              refine .alike (List.forall_mem_singleton.2 fun _ document stated => ?_)
              cases stated
          | broken cause => cases lacks

/-- Following a link is forgiven. -/
theorem isForgiven_follow : Lookup.IsForgiven node (plan.follow source walk target) := by
  unfold follow
  extract_lets linked
  split
  · exact Lookup.isForgiven_pure _
  · split
    · exact (Lookup.isForgiven_takeNote _).bind fun _ => Lookup.isForgiven_pure _
    · exact isForgiven_fetch.bind fun code =>
        (Lookup.isForgiven_takeNote _).bind fun _ => Lookup.isForgiven_pure _

/-- Following the links to several targets is forgiven. -/
theorem isForgiven_followAll (targets : List Text) :
    Lookup.IsForgiven node (plan.followAll source targets walk) := by
  induction targets generalizing walk with
  | nil => exact Lookup.isForgiven_pure walk
  | cons target rest inductionHypothesis =>
      exact isForgiven_follow.bind fun _ => inductionHypothesis

/-- A turn is forgiven: to find targets is not to ask for code. -/
theorem isForgiven_expand (visit : Visit) : Lookup.IsForgiven node (plan.expand visit walk) :=
  (Lookup.isForgiven_of_noCode fun _ _ => Proxy.noCode_targetsOfCode).bind fun targets =>
    isForgiven_followAll targets

/-- Turns are forgiven. -/
theorem isForgiven_continueFor (turns : Nat) :
    Lookup.IsForgiven node (plan.continueFor turns walk) := by
  induction turns generalizing walk with
  | zero => exact Lookup.isForgiven_pure walk
  | succ turns inductionHypothesis =>
      unfold continueFor
      split
      · exact Lookup.isForgiven_pure walk
      · exact (isForgiven_expand _).bind fun _ => inductionHypothesis

end WalkPlan

/-- A walk that is judged in the end is forgiven. -/
theorem Chain.isForgiven_resolve {node : List Query → Query → PostOutcome} (url address : Text)
    (code : Code) (bound : Int) (registry : Registry) :
    Lookup.IsForgiven node (resolve url address code bound registry) :=
  (WalkPlan.isForgiven_continueFor _).bind fun _ => Lookup.isForgiven_pure _

/-- Every reading that several visits were fetched by fetched one of them. -/
theorem Visit.exists_of_fetchedBy {url : Text} {visits : List Visit} {readings : List Reading}
    (areFetched : List.Forall₂ (Visit.FetchedBy url) visits readings) {reading : Reading}
    (isRead : reading ∈ readings) : ∃ visit ∈ visits, visit.FetchedBy url reading := by
  induction areFetched with
  | nil => cases isRead
  | cons isFetched _ inductionHypothesis =>
      rcases List.mem_cons.1 isRead with rfl | isLater
      · exact ⟨_, List.mem_cons_self, isFetched⟩
      · obtain ⟨visit, isVisit, isFetchedLater⟩ := inductionHypothesis isLater
        exact ⟨visit, List.mem_cons_of_mem _ isVisit, isFetchedLater⟩

/-- The contracts whose code was asked for were visited, without code where none could be had. -/
def Walk.VisitsAsked (walk : Walk) (url : Text) (asked : List Reading) : Prop :=
  ∀ reading ∈ asked, reading.isCode = true → ∃ visit ∈ walk.visited,
    reading.query = ⟨url, .code visit.address⟩ ∧
      (lacksCode reading.answer = true → visit.code = .empty)

/-- A walk before a node made forgiving visits the contracts whose code the node itself was asked
for. -/
theorem WalkPlan.Consistent.visitsAsked {plan : WalkPlan} {start : Visit} {expanded : List Visit}
    {readings asked : List Reading} {walk : Walk}
    (consistent : plan.Consistent start expanded readings walk)
    (included : ∀ reading ∈ asked, reading.forgiven ∈ readings) :
    walk.VisitsAsked plan.url asked := by
  intro reading isAsked isCode
  obtain ⟨later, isVisited, areFetched⟩ := consistent.fetched
  have isRead : reading.forgiven ∈ codeReadings readings :=
    List.mem_filter.2 ⟨included reading isAsked, isCode⟩
  obtain ⟨visit, isVisit, isFetched⟩ := Visit.exists_of_fetchedBy areFetched isRead
  refine ⟨visit, isVisited ▸ List.mem_cons_of_mem _ isVisit, isFetched.query, fun lacks => ?_⟩
  have isEmpty := (codeIn_of_lacksCode isCode lacks).symm.trans isFetched.code
  exact (Except.ok.inj isEmpty).symm

/-- Before the node made forgiving, a walk comes to an end in which it has kept to its bound, and it
has visited every contract whose code the node itself was asked for. The walk before the node itself
is the same, unless it ends at a document that spells no code. -/
theorem Chain.resolve_forgiven {node : List Query → Query → PostOutcome}
    (objects : ∀ past query, (node past query).result ≠ .error (.broken .malformedErrorMember))
    (url address : Text) (code : Code) (bound : Int) (registry : Registry) :
    let plan : WalkPlan := ⟨Text.lower address, bound, url⟩
    let lookup := resolve url address code bound registry
    let actual := lookup.converse (answersOf node) []
    let lenient := lookup.converse (answersOf (forgiving node)) []
    Forgiven actual lenient ∧ plan.Settles code registry lenient.1 lenient.2 ∧
      ∀ turns walk, plan.Advances (.start ⟨plan.root, code⟩) turns lenient.1 walk →
        walk.VisitsAsked url actual.1 := by
  intro plan lookup actual lenient
  have forgiven : Forgiven actual lenient := isForgiven_resolve url address code bound registry []
  refine ⟨forgiven, ?_, fun turns walk advances => ?_⟩
  · have areProper : AreProper lenient.1 :=
      (isProper_forgiving objects).areProper fun _ => Dialogue.mem_converse
    exact settles_of_takesPlace (Dialogue.takesPlace_converse _ _ lookup) areProper
  · exact advances.consistent.visitsAsked fun _ => forgiven.mem

/-! ## A document that spells no code -/

/-- The fault in a document that a lookup ended at. -/
def codeFault? {α : Type} : Except LookupError α → Option CodeError
  | .error (.code fault) => some fault
  | .error (.rpc _) => none
  | .error (.broken _) => none
  | .ok _ => none

/-- A lookup that ended at a document ended in its fault. -/
theorem eq_of_codeFault? {α : Type} {outcome : Except LookupError α} {fault : CodeError}
    (isFault : codeFault? outcome = some fault) : outcome = .error (.code fault) := by
  unfold codeFault? at isFault
  split at isFault
  next => rw [Option.some.inj isFault]
  next => cases isFault
  next => cases isFault
  next => cases isFault

/-- A reply that states three digits where code should stand. -/
def oddReply : PostOutcome :=
  .answered 200 "\x7b\"result\":\"0xabc\"\x7d"

/-- The result that the reply states. -/
theorem result_oddReply : oddReply.result = .ok (.str "0xabc") := by
  refine eq_of_resultText? ?_
  decide +kernel

/-- A node that states three digits as the code of every contract, and fails otherwise. -/
def statesDigits (_ : List Query) (query : Query) : PostOutcome :=
  if query.read.isCode then oddReply else .failed

/-- The code of a contract that delegates to a fixed address. -/
def delegatingCode : Code :=
  ⟨115 :: (List.replicate 20 1 ++ [244])⟩

/-- Before that node, and before the node made forgiving, the walk from the contract. -/
theorem Chain.resolve_forgiven_statesDigits :
    let plan : WalkPlan := ⟨Text.lower "0x00000000000000000000000000000000000000a1", 16,
      "http://node"⟩
    let lookup := resolve "http://node" "0x00000000000000000000000000000000000000a1" delegatingCode
      16 ⟨[]⟩
    let actual := lookup.converse (answersOf statesDigits) []
    let lenient := lookup.converse (answersOf (forgiving statesDigits)) []
    (∀ past query, (statesDigits past query).result ≠ .error (.broken .malformedErrorMember)) ∧
    Forgiven actual lenient ∧ plan.Settles delegatingCode ⟨[]⟩ lenient.1 lenient.2 ∧
      ∀ turns walk, plan.Advances (.start ⟨plan.root, delegatingCode⟩) turns lenient.1 walk →
        walk.VisitsAsked "http://node" actual.1 := by
  intro plan lookup actual lenient
  have objects (past : List Query) (query : Query) :
      (statesDigits past query).result ≠ .error (.broken .malformedErrorMember) := by
    unfold statesDigits
    split
    · rw [result_oddReply]
      exact nofun
    · exact nofun
  exact ⟨objects, Chain.resolve_forgiven objects "http://node"
    "0x00000000000000000000000000000000000000a1" delegatingCode 16 ⟨[]⟩⟩

/-- Before that node the walk ends at the three digits; before the node made forgiving it visits the
target. -/
theorem Chain.resolve_refuses_statesDigits :
    let lookup := resolve "http://node" "0x00000000000000000000000000000000000000a1" delegatingCode
      16 ⟨[]⟩
    (lookup.converse (answersOf statesDigits) []).2 = .error (.code .oddLength) ∧
    (lookup.converse (answersOf (forgiving statesDigits)) []).2 = .ok
      ⟨"0x00000000000000000000000000000000000000a1", none,
        [⟨"0x00000000000000000000000000000000000000a1",
          "0x0101010101010101010101010101010101010101"⟩],
        ["0x00000000000000000000000000000000000000a1",
          "0x0101010101010101010101010101010101010101"], false⟩ := by
  refine ⟨eq_of_codeFault? ?_, eq_ok_of_toOption ?_⟩
  · decide +kernel
  · decide +kernel

end TokenLens
