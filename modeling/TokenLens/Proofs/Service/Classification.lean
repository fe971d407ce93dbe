import TokenLens.Proofs.Abi.Refusal
import TokenLens.Proofs.Number.Order
import TokenLens.Proofs.Number.Rounding
import TokenLens.Proofs.Service.Telling

/-!
# What is answered about a contract in a body

A request that posts a document with a contract to classify is served, refused with status 422, or
breaks down, and which of the three can be told from the members of the document
(`App.serve_classification`). It is served if the contract is there and is accepted, the threshold
is a number from zero to a hundred and the strategy is one of the two; the response then names the
standard that a classification of the same contract finds. Whatever else a document holds is
refused. Only what is nested too deeply, and an ABI that breaks the reading down, is not.
-/

namespace TokenLens

namespace Number

open Binary64 (unitsPerOne unitExponent)

/-- Where an integer lies, in units. -/
theorem place?_integer (value : Int) :
    (integer value).place? = some (.units (value * (unitsPerOne : Nat))) := by
  unfold place? unitsPerOne unitExponent
  generalize 1074 = exponent
  rfl

/-- A number from zero to a hundred lies as many units from zero. -/
theorem inRange_iff {number : Number} :
    ((integer 0).le number = true ∧ number.le .hundred = true) ↔
      ∃ units, number.place? = some (.units units) ∧ 0 ≤ units ∧ units ≤ 100 * unitsPerOne := by
  have isZero : (integer 0).place? = some (.units 0) := by rw [place?_integer, Int.zero_mul]
  have isHundred := place?_integer 100
  cases isPlace : number.place? with
  | none => simp [le, isPlace]
  | some place =>
      rw [hundred, le_iff_of_place? isZero isPlace, le_iff_of_place? isPlace isHundred]
      cases place <;> simp [Place.onLine]

/-- An integer from zero to a hundred, in units. -/
theorem inRange_integer_iff {count : Int} :
    ((integer 0).le (integer count) = true ∧ (integer count).le .hundred = true) ↔
      0 ≤ count ∧ count ≤ 100 := by
  have positive : (0 : Int) < unitsPerOne := by exact_mod_cast Nat.two_pow_pos unitExponent
  rw [inRange_iff, place?_integer]
  simp [Int.mul_nonneg_iff_of_pos_right positive, Int.mul_le_mul_right positive]

end Number

/-! ## What a body states -/

/-- What a request to classify is about. -/
inductive Subject where
  | abi
  | code

/-- The threshold that a member states: a number from zero to a hundred, and a hundred where there
is no such member. -/
inductive StatesThreshold : Option Json → Number → Prop
  | absent : StatesThreshold none .hundred
  | integer {count : Int} (atLeast : 0 ≤ count) (atMost : count ≤ 100) :
      StatesThreshold (some (.int count)) (.integer count)
  | double {value : Binary64} {units : Int} (isPlace : value.place? = some (.units units))
      (atLeast : 0 ≤ units) (atMost : units ≤ 100 * Binary64.unitsPerOne) :
      StatesThreshold (some (.float value)) (.double value)

/-- The strategy that a member names by its text. -/
inductive NamesStrategy : Option Json → Strategy → Prop
  | absent : NamesStrategy none .minMax
  | minMax {stated : Json} (named : stated.display = "min_max") :
      NamesStrategy (some stated) .minMax
  | percent {stated : Json} (named : stated.display = "percent") :
      NamesStrategy (some stated) .percent

namespace Subject

/-- The member of a body that holds the contract. -/
def member : Subject → Text
  | .abi => "abi"
  | .code => "bytecode"

/-- The path at which contracts are classified. -/
def path : Subject → String
  | .abi => "/classify/abi"
  | .code => "/classify/bytecode"

/-- What a body asks for: the contract, and how to classify it. Only objects have members. -/
structure Asks (subject : Subject) (body contract : Json) (threshold : Number)
    (strategy : Strategy) : Prop where
  contract : body.member? subject.member = some contract
  threshold : StatesThreshold (body.member? "threshold") threshold
  strategy : NamesStrategy (body.member? "strategy") strategy

/-- A contract that is accepted: an ABI with selectors, or a text that spells code. -/
def Accepts : Subject → Json → Prop
  | .abi, contract => ∃ selectors, Abi.selectors contract = .ok selectors
  | .code, contract => ∃ code, Code.ofJson contract = .ok code

/-- A contract that breaks the reading down. Code never does. -/
def BreaksDown : Subject → Json → Prop
  | .abi, contract => Abi.BreaksDown contract
  | .code, _ => False

/-- A body that asks for something that is accepted. -/
def IsServed (subject : Subject) (body : Json) : Prop :=
  ∃ contract threshold strategy, subject.Asks body contract threshold strategy ∧
    subject.Accepts contract

/-- A body that asks for something that breaks the reading down. -/
def IsBroken (subject : Subject) (body : Json) : Prop :=
  ∃ contract threshold strategy, subject.Asks body contract threshold strategy ∧
    subject.BreaksDown contract

/-- The standard that a classification finds. -/
def label? (contract : Json) (strategy : Strategy) (threshold : Number) :
    Subject → Except InvalidInput (Option Text)
  | .abi => classifyAbi contract .bundled strategy threshold
  | .code => (classifyCode contract .bundled strategy threshold).map Verdict.label?

/-- What is answered about a contract. -/
def classification (request : Request) : Subject → Except RequestError Json
  | .abi => Service.classifyAbi request
  | .code => Service.classifyBytecode request

end Subject

/-! ## The checks of a body -/

/-- A check of one part of a body: it finds what the body states, or the body states nothing of the
kind and is refused. -/
inductive Checks {α : Type} (states : α → Prop) : Except RequestError α → Prop
  | passed {found : α} (stated : states found) : Checks states (.ok found)
  | refused {fault : RequestError} (nothing : ∀ found, ¬ states found)
      (isRefusal : (Response.ofError fault).status = 422) : Checks states (.error fault)

/-- A number from zero to a hundred is stated as a threshold, and no other is. -/
theorem statesThreshold_iff {stated : Json} {threshold : Number} :
    StatesThreshold (some stated) threshold ↔ stated.number? = some threshold ∧
      (Number.integer 0).le threshold = true ∧ threshold.le .hundred = true := by
  constructor
  · intro states
    cases states with
    | integer atLeast atMost => exact ⟨rfl, Number.inRange_integer_iff.2 ⟨atLeast, atMost⟩⟩
    | double isPlace atLeast atMost =>
        exact ⟨rfl, Number.inRange_iff.2 ⟨_, isPlace, atLeast, atMost⟩⟩
  · rintro ⟨isNumber, inRange⟩
    cases stated with
    | int count =>
        obtain rfl := Option.some.inj isNumber
        obtain ⟨atLeast, atMost⟩ := Number.inRange_integer_iff.1 inRange
        exact .integer atLeast atMost
    | float value =>
        obtain rfl := Option.some.inj isNumber
        obtain ⟨units, isPlace, atLeast, atMost⟩ := Number.inRange_iff.1 inRange
        exact .double isPlace atLeast atMost
    | _ => cases isNumber

namespace Request

/-- The contract is checked. -/
theorem checks_contract (name : Text) (body : Json) :
    Checks (fun contract => body.member? name = some contract)
      (contract name body.membersOrNone) := by
  unfold contract
  rw [Declaration.get?_membersOrNone]
  cases body.member? name with
  | none => exact .refused nofun rfl
  | some stated => exact .passed rfl

/-- The threshold is checked. -/
theorem checks_threshold (body : Json) :
    Checks (StatesThreshold (body.member? "threshold")) (threshold body.membersOrNone) := by
  unfold threshold
  rw [Declaration.get?_membersOrNone]
  cases body.member? "threshold" with
  | none => exact .passed .absent
  | some stated =>
      dsimp only
      cases isNumber : stated.number? with
      | none =>
          refine .refused (fun number states => ?_) rfl
          cases isNumber.symm.trans (statesThreshold_iff.1 states).1
      | some number =>
          dsimp only
          split
          next inRange =>
            rw [Bool.and_eq_true] at inRange
            exact .passed (statesThreshold_iff.2 ⟨isNumber, inRange⟩)
          next outOfRange =>
            refine .refused (fun other states => outOfRange ?_) rfl
            obtain ⟨isOther, inRange⟩ := statesThreshold_iff.1 states
            obtain rfl := Option.some.inj (isNumber.symm.trans isOther)
            rwa [Bool.and_eq_true]

/-- The strategy is checked. -/
theorem checks_strategy (body : Json) :
    Checks (NamesStrategy (body.member? "strategy")) (strategy body.membersOrNone) := by
  unfold strategy
  rw [Declaration.get?_membersOrNone]
  cases body.member? "strategy" with
  | none => exact .passed .absent
  | some stated =>
      dsimp only [Strategy.ofJson]
      split_ifs with isMinMax isPercent
      · exact .passed (.minMax isMinMax)
      · exact .passed (.percent isPercent)
      · refine .refused (fun strategy names => ?_) rfl
        cases names with
        | minMax named => exact isMinMax named
        | percent named => exact isPercent named

end Request

/-! ## What is answered about a body -/

/-- The members of a body that can be told. -/
theorem Service.membersOf_eq {request : Request} {body : Json}
    (isBody : request.document = .ok body) : membersOf request = .ok body.membersOrNone := by
  rw [membersOf, Request.members, isBody]
  rfl

namespace Subject

variable {subject : Subject} {request : Request} {body contract : Json} {threshold : Number}
  {strategy : Strategy}

/-- A body asks for one thing at most. -/
theorem Asks.unique {contractToo : Json} {thresholdToo : Number} {strategyToo : Strategy}
    (asks : subject.Asks body contract threshold strategy)
    (asksToo : subject.Asks body contractToo thresholdToo strategyToo) :
    contract = contractToo ∧ threshold = thresholdToo ∧ strategy = strategyToo := by
  refine ⟨Option.some.inj (asks.contract.symm.trans asksToo.contract), ?_, ?_⟩
  · have states := asks.threshold
    have statesToo := asksToo.threshold
    generalize body.member? "threshold" = stated? at states statesToo
    cases states <;> cases statesToo <;> rfl
  · have names := asks.strategy
    have namesToo := asksToo.strategy
    generalize body.member? "strategy" = stated? at names namesToo
    have apart : ∀ text : Text, text = "min_max" → text ≠ "percent" := by
      rintro _ rfl
      decide
    cases names with
    | absent => cases namesToo; rfl
    | minMax named =>
        cases namesToo with
        | minMax _ => rfl
        | percent namedToo => exact absurd namedToo (apart _ named)
    | percent named =>
        cases namesToo with
        | minMax namedToo => exact absurd named (apart _ namedToo)
        | percent _ => rfl

/-- What becomes of a body: it is served, and its standard is the one that a classification finds,
or it is refused, or it breaks down. -/
inductive Answers (subject : Subject) (body : Json) : Except RequestError Json → Prop
  | served {contract : Json} {threshold : Number} {strategy : Strategy} {label? : Option Text}
      {others : List (Text × Json)} (asks : subject.Asks body contract threshold strategy)
      (accepts : subject.Accepts contract)
      (isLabel : subject.label? contract strategy threshold = .ok label?) :
      Answers subject body (.ok (.obj (("standard", Service.optionalText label?) :: others)))
  | refused {fault : RequestError} (notServed : ¬ subject.IsServed body)
      (unbroken : ¬ subject.IsBroken body) (isRefusal : (Response.ofError fault).status = 422) :
      Answers subject body (.error fault)
  | broken {fault : RequestError} (isBroken : subject.IsBroken body)
      (isPage : (Response.ofError fault).status = 500) : Answers subject body (.error fault)

/-- A contract that is accepted does not break down. -/
theorem Accepts.not_breaksDown (accepts : subject.Accepts contract) :
    ¬ subject.BreaksDown contract := by
  cases subject with
  | abi =>
      obtain ⟨selectors, isAccepted⟩ := accepts
      have concludes := Abi.concludes_selectors contract
      rw [isAccepted] at concludes
      cases concludes with
      | accepted accepted => exact accepted.not_breaksDown
  | code => exact id

/-- A body that is served does not break down. -/
theorem IsServed.not_isBroken (isServed : subject.IsServed body) : ¬ subject.IsBroken body := by
  obtain ⟨contract, threshold, strategy, asks, accepts⟩ := isServed
  rintro ⟨contractToo, thresholdToo, strategyToo, asksToo, breaks⟩
  obtain ⟨rfl, -, -⟩ := asks.unique asksToo
  exact accepts.not_breaksDown breaks

/-- A body is answered if a check is passed and what follows answers, or if whatever the body asks
for states something for a check that is not passed. -/
theorem answers_bind {α : Type} {states : α → Prop} {outcome : Except RequestError α}
    {next : α → Except RequestError Json} (checks : Checks states outcome)
    (asked : ∀ contract threshold strategy, subject.Asks body contract threshold strategy →
      ∃ found, states found)
    (onwards : ∀ found, states found → subject.Answers body (next found)) :
    subject.Answers body (outcome >>= next) := by
  cases checks with
  | passed stated => exact onwards _ stated
  | refused nothing isRefusal =>
      -- Which check fails first does not matter: a body that fails any of them asks for nothing.
      have asksNothing : ∀ contract threshold strategy,
          ¬ subject.Asks body contract threshold strategy := by
        intro contract threshold strategy asks
        obtain ⟨found, stated⟩ := asked contract threshold strategy asks
        exact nothing found stated
      refine .refused ?_ ?_ isRefusal
      · exact fun ⟨_, _, _, asks, _⟩ => asksNothing _ _ _ asks
      · exact fun ⟨_, _, _, asks, _⟩ => asksNothing _ _ _ asks

/-- A body is answered if whatever it asks for is, once its parts are checked. -/
theorem answers_checked {next : Json → Number → Strategy → Except RequestError Json}
    (onwards : ∀ contract threshold strategy, subject.Asks body contract threshold strategy →
      subject.Answers body (next contract threshold strategy)) :
    subject.Answers body (do
      let contract ← Request.contract subject.member body.membersOrNone
      let threshold ← Request.threshold body.membersOrNone
      let strategy ← Request.strategy body.membersOrNone
      next contract threshold strategy) := by
  refine answers_bind (Request.checks_contract _ body) (fun _ _ _ asks => ⟨_, asks.contract⟩) ?_
  intro contract isContract
  refine answers_bind (Request.checks_threshold body) (fun _ _ _ asks => ⟨_, asks.threshold⟩) ?_
  intro threshold isThreshold
  refine answers_bind (Request.checks_strategy body) (fun _ _ _ asks => ⟨_, asks.strategy⟩) ?_
  intro strategy isStrategy
  exact onwards contract threshold strategy ⟨isContract, isThreshold, isStrategy⟩

/-- A contract that is neither accepted nor breaks down is refused. -/
theorem Asks.answers_refused (asks : subject.Asks body contract threshold strategy)
    {fault : RequestError} (notAccepted : ¬ subject.Accepts contract)
    (unbroken : ¬ subject.BreaksDown contract)
    (isRefusal : (Response.ofError fault).status = 422) : subject.Answers body (.error fault) := by
  refine .refused ?_ ?_ isRefusal
  · rintro ⟨other, _, _, asksToo, accepts⟩
    obtain ⟨rfl, -, -⟩ := asks.unique asksToo
    exact notAccepted accepts
  · rintro ⟨other, _, _, asksToo, breaks⟩
    obtain ⟨rfl, -, -⟩ := asks.unique asksToo
    exact unbroken breaks

/-- The classification of an ABI that a body asks for. -/
theorem answers_classifyAbi (isBody : request.document = .ok body) :
    Subject.abi.Answers body (Service.classifyAbi request) := by
  rw [Service.classifyAbi, Service.membersOf_eq isBody]
  refine answers_checked fun abi threshold strategy asks => ?_
  have concludes := Abi.concludes_selectors abi
  -- The selectors are searched for twice, once for the label and once for their number.
  unfold TokenLens.classifyAbi
  generalize isSearch : Abi.selectors abi = outcome at concludes ⊢
  cases concludes with
  | accepted accepted =>
      refine .served asks ⟨_, isSearch⟩ ?_
      rw [label?, classifyAbi, isSearch]
      rfl
  | refused refused unbroken =>
      refine asks.answers_refused ?_ (fun breaks => breaks.not_isRefused refused) ?_
      · rintro ⟨selectors, isAccepted⟩
        cases isSearch.symm.trans isAccepted
      · simp [Response.ofError, InvalidInput.breakdown?, unbroken, Response.refusal,
          Response.document]
  | broken breaks isBroken =>
      refine .broken ⟨_, _, _, asks, breaks⟩ ?_
      simp [Response.ofError, InvalidInput.breakdown?, isBroken, Response.page]

/-- The classification of code that a body asks for. -/
theorem answers_classifyBytecode (isBody : request.document = .ok body) :
    Subject.code.Answers body (Service.classifyBytecode request) := by
  rw [Service.classifyBytecode, Service.membersOf_eq isBody]
  refine answers_checked fun bytecode threshold strategy asks => ?_
  unfold classifyCode
  cases isCode : Code.ofJson bytecode with
  | ok code =>
      refine .served asks ⟨code, isCode⟩ ?_
      rw [label?, classifyCode, isCode]
      rfl
  | error fault =>
      refine asks.answers_refused ?_ id rfl
      rintro ⟨code, isAccepted⟩
      cases isCode.symm.trans isAccepted

/-- What is answered about the contract of a body. -/
theorem answers_classification (subject : Subject) (isBody : request.document = .ok body) :
    subject.Answers body (subject.classification request) := by
  cases subject with
  | abi => exact answers_classifyAbi isBody
  | code => exact answers_classifyBytecode isBody

/-- A response to a body: when it is served, refused or broken down, and which standard it names. -/
structure IsAnsweredBy (subject : Subject) (body : Json) (response : Response) : Prop where
  served : response.status = 200 ↔ subject.IsServed body
  broken : response.status = 500 ↔ subject.IsBroken body
  refused : response.status = 422 ↔ ¬ subject.IsServed body ∧ ¬ subject.IsBroken body
  names : ∀ contract threshold strategy, subject.Asks body contract threshold strategy →
    subject.Accepts contract → ∃ label? others,
      subject.label? contract strategy threshold = .ok label? ∧
      response.body = some (.obj (("standard", Service.optionalText label?) :: others))

/-- The response to what becomes of a body. -/
theorem Answers.isAnsweredBy {outcome : Except RequestError Json}
    (answers : subject.Answers body outcome) :
    subject.IsAnsweredBy body (.ofOutcome outcome) := by
  cases answers with
  | @served contract threshold strategy label? others asks accepts isLabel =>
      have isServed : subject.IsServed body := ⟨_, _, _, asks, accepts⟩
      refine ⟨?_, ?_, ?_, fun _ _ _ asksToo _ => ?_⟩
      · simp [Response.ofOutcome, Response.document, isServed]
      · simp [Response.ofOutcome, Response.document, isServed.not_isBroken]
      · simp [Response.ofOutcome, Response.document, isServed]
      · obtain ⟨rfl, rfl, rfl⟩ := asks.unique asksToo
        exact ⟨label?, others, isLabel, rfl⟩
  | refused notServed unbroken isRefusal =>
      refine ⟨?_, ?_, ?_, fun _ _ _ asks accepts => ?_⟩
      · simp [Response.ofOutcome, isRefusal, notServed]
      · simp [Response.ofOutcome, isRefusal, unbroken]
      · simp [Response.ofOutcome, isRefusal, notServed, unbroken]
      · exact absurd ⟨_, _, _, asks, accepts⟩ notServed
  | broken isBroken isPage =>
      have notServed : ¬ subject.IsServed body := fun isServed => isServed.not_isBroken isBroken
      refine ⟨?_, ?_, ?_, fun _ _ _ asks accepts => ?_⟩
      · simp [Response.ofOutcome, isPage, notServed]
      · simp [Response.ofOutcome, isPage, isBroken]
      · simp [Response.ofOutcome, isPage, isBroken]
      · exact absurd ⟨_, _, _, asks, accepts⟩ notServed

/-- A body without members is refused. -/
theorem IsAnsweredBy.status_of_null {response : Response}
    (answered : subject.IsAnsweredBy .null response) : response.status = 422 := by
  refine answered.refused.2 ⟨?_, ?_⟩
  · rintro ⟨_, _, _, asks, -⟩
    cases asks.contract
  · rintro ⟨_, _, _, asks, -⟩
    cases asks.contract

end Subject

/-! ## Posted documents -/

namespace Request

variable {subject : Subject} {request : Request}

/-- The document that the bytes of a body spell, or why they spell none. Some bytes are no text. -/
def spelled? (request : Request) : Option (Except Json.ReadError Json) :=
  (Json.textOfBytes? request.content).map Json.read

/-- A request that posts a document with a contract to classify. -/
structure Posts (request : Request) (subject : Subject) : Prop where
  verb : request.verb = "POST"
  path : request.path = subject.path
  hasValidHost : request.target.hasValidHost = true
  noSocket : request.isFromSocket = false
  hasJson : request.hasJson = true

/-- A posted document is answered without a node. -/
theorem Posts.answer_eq (posts : request.Posts subject) (settings : Settings)
    (journal : Option Journal) :
    Service.answer settings journal request =
      pure (.ofOutcome (subject.classification request)) := by
  unfold Service.answer Service.destination
  rw [posts.hasValidHost, posts.noSocket, posts.verb, posts.path]
  cases subject with
  | abi => rfl
  | code => rfl

/-- The response to a posted document is sent as it is. -/
theorem Posts.delivered_eq (posts : request.Posts subject) (response : Response) :
    Service.delivered request response = response := by
  refine if_neg fun isHead => ?_
  have isPost := posts.verb
  rw [Request.verb, isHead] at isPost
  exact absurd isPost (by decide)

/-- A document that is spelled out is the document of the request. -/
theorem Posts.document_eq (posts : request.Posts subject) {body : Json}
    (isBody : request.spelled? = some (.ok body)) : request.document = .ok body := by
  unfold spelled? at isBody
  rw [document, if_pos posts.hasJson, isBody]

/-- Where nothing is spelled out, the document of the request is null. -/
theorem Posts.document_eq_null (posts : request.Posts subject)
    (noBody : ∀ body, request.spelled? ≠ some (.ok body))
    (shallow : request.spelled? ≠ some (.error .tooDeep)) : request.document = .ok .null := by
  unfold spelled? at noBody shallow
  rw [document, if_pos posts.hasJson]
  split
  next body isBody => exact absurd isBody (noBody body)
  next isDeep => exact absurd isDeep shallow
  next => rfl

/-- A posted document is answered as the request log leaves it. -/
theorem Posts.serve_eq (posts : request.Posts subject) (app : App) (book : Logbook)
    (stamp : Stamp) :
    ∃ after, app.serve book stamp request = pure
      ((Service.kept stamp request (.ofOutcome (subject.classification request))).1, after) := by
  rw [App.serve, posts.answer_eq]
  generalize Response.ofOutcome (subject.classification request) = response
  refine ⟨(Service.kept stamp request response).2.elim book book.record, ?_⟩
  rw [← posts.delivered_eq (Service.kept stamp request response).1]
  rfl

/-- The request log leaves a response as it is where the document of the request can be told. -/
theorem fst_kept_of_document {body : Json} (isBody : request.document = .ok body) (stamp : Stamp)
    (response : Response) : (Service.kept stamp request response).1 = response := by
  unfold Service.kept LogEntry.of
  split
  · cases isStated : request.statedAddress with
    | ok address => rfl
    | error cause =>
        obtain ⟨-, hides⟩ := statedAddress_eq_error_iff.1 isStated
        have isBroken := document_eq_error_iff.2 ⟨rfl, hides.isDocument, hides.tooDeep⟩
        cases isBody.symm.trans isBroken
  · rfl

/-- A document that is nested too deeply is answered with status 500, whatever is logged. -/
theorem Posts.status_of_tooDeep (posts : request.Posts subject)
    (isDeep : request.spelled? = some (.error .tooDeep)) (stamp : Stamp) :
    (Service.kept stamp request (.ofOutcome (subject.classification request))).1.status = 500 := by
  have isBroken := document_eq_error_iff.2 ⟨rfl, posts.hasJson, isDeep⟩
  have isMembers : Service.membersOf request = .error (.broken .tooDeep) := by
    rw [Service.membersOf, members, isBroken]
    rfl
  have isClassification : subject.classification request = .error (.broken .tooDeep) := by
    cases subject with
    | abi => rw [Subject.classification, Service.classifyAbi, isMembers]; rfl
    | code => rw [Subject.classification, Service.classifyBytecode, isMembers]; rfl
  rw [isClassification]
  -- The log reads the body again unless the query states an address, and then replaces the page.
  unfold Service.kept
  split
  · split
    · rfl
    · rfl
  · rfl

end Request

namespace App

/-- The bytes of a text of ASCII. -/
def asciiBytes (text : String) : List UInt8 :=
  text.toList.map fun character => UInt8.ofNat character.toNat

/-- A request that posts a document. -/
def posting (path : String) (content : List UInt8) : Request :=
  requestOf "POST" path "application/json" content

/-- A request that posts code with a strategy and a threshold. -/
def codeRequest : Request :=
  posting "/classify/bytecode" (asciiBytes
    "\x7b\"bytecode\":\"0x6000\",\"strategy\":\"percent\",\"threshold\":60\x7d")

/-- A request that posts a thousand lists inside each other. -/
def nestedRequest : Request :=
  posting "/classify/abi" (Json.nestedBytes 1000)

/-- A request that posts an ABI beside a number of more digits than are read. -/
def longRequest : Request :=
  posting "/classify/abi"
    (asciiBytes "\x7b\"abi\":[],\"x\":" ++ List.replicate 4301 0x31 ++ [0x7D])

/-- A request that posts an ABI as a text that names a function by one half of a surrogate pair. -/
def halfRequest : Request :=
  posting "/classify/abi" (asciiBytes
    "\x7b\"abi\":\"[\x7b\\\"type\\\":\\\"function\\\",\\\"name\\\":\\\"\\\\ud800\\\"\x7d]\"\x7d")

end App

end TokenLens
