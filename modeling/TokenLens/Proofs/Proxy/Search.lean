import TokenLens.Proofs.Node.Pool
import TokenLens.Proofs.Proxy.Answers

/-!
# Searches whose probes run side by side

A search for the targets of a contract starts with its code, which may already settle it. Only where
it does not are the probes handed to a pool of workers. `Proxy.Searches` says in which outcomes such
a search may end and which requests it sends by then, whatever is made of the probes. Gathering
waits for all of them: `Proxy.Gathers`.
-/

namespace TokenLens

namespace Proxy

/-- What the code of a contract settles about its target without probing: that there is none, or
which one it is. -/
def unprobed? : Option Code → Option (Option Text)
  | none => some none
  | some code => if code.bytes.isEmpty then some none else (literalTarget? code).map some

/-- To find all targets is to gather where the code does not settle them. -/
theorem targets_eq (url address : Text) (bytecode : Option Json) :
    targets url address bytecode = codeAt? url address bytecode >>= fun code? =>
      (unprobed? code?).elim (Probe.gather url address) fun target? => pure target?.toList := by
  unfold targets
  refine bind_congr fun code? => ?_
  cases code? with
  | none => rfl
  | some code =>
      simp only [targetsOfCode, unprobed?]
      split
      · rfl
      · cases literalTarget? code with
        | none => rfl
        | some target => rfl

/-- To find a first target is to race where the code does not settle it. -/
theorem firstTarget?_eq (url address : Text) (bytecode : Option Json) :
    firstTarget? url address bytecode = codeAt? url address bytecode >>= fun code? =>
      (unprobed? code?).elim (Probe.race url address Probe.all) pure := by
  unfold firstTarget?
  refine bind_congr fun code? => ?_
  cases code? with
  | none => rfl
  | some code =>
      simp only [firstTargetOfCode?, unprobed?]
      split
      · rfl
      · cases literalTarget? code with
        | none => rfl
        | some target => rfl

/-- What is known about the code of a contract: the document that was handed over, or what the node
answers. -/
def codeAnswer (answers : Query → Except ReadFault Json) (url address : Text) :
    Option Json → Except ReadFault Json
  | some bytecode => .ok bytecode
  | none => answers ⟨url, .code address⟩

/-- The code of a contract follows from what is known about it. -/
theorem outcome_codeAt? (answers : Query → Except ReadFault Json) (url address : Text)
    (bytecode : Option Json) :
    (codeAt? url address bytecode).outcome answers =
      match codeAnswer answers url address bytecode with
      | .ok document => some <$> (Code.ofJson document).mapError .code
      | .error (.rpc _) => .ok none
      | .error (.broken cause) => .error (.broken cause) := by
  have spelled (document : Json) : (some <$> Lookup.codeOf document).outcome answers =
      some <$> (Code.ofJson document).mapError .code := by
    rw [map_eq_pure_bind, Lookup.outcome_bind, Lookup.outcome_codeOf]
    cases Code.ofJson document with
    | ok code => rfl
    | error fault => rfl
  cases bytecode with
  | some bytecode => exact spelled bytecode
  | none =>
      simp only [codeAt?, codeAnswer]
      rw [Lookup.outcome_bind, Lookup.outcome_tryRead]
      cases answers ⟨url, .code address⟩ with
      | ok document => exact spelled document
      | error fault =>
          cases fault with
          | rpc error => rfl
          | broken cause => rfl

/-- The code of a contract is the one that the known document spells. -/
theorem outcome_codeAt?_of_spelled {answers : Query → Except ReadFault Json} {url address : Text}
    {bytecode : Option Json} {document : Json} {code : Code}
    (known : codeAnswer answers url address bytecode = .ok document)
    (spelled : Code.ofJson document = .ok code) :
    (codeAt? url address bytecode).outcome answers = .ok (some code) := by
  simp only [outcome_codeAt?, known, spelled]
  rfl

/-- A search that probes only where the code does not settle the targets has its value from the code
or from the probes. -/
theorem outcome_search {α : Type} (answers : Query → Except ReadFault Json) (url address : Text)
    (bytecode : Option Json) (settle : Option Text → α) (probing : Lookup α) :
    (codeAt? url address bytecode >>= fun code? =>
        (unprobed? code?).elim probing fun target? => pure (settle target?)).outcome answers =
      match (codeAt? url address bytecode).outcome answers with
      | .error error => .error error
      | .ok code? =>
          match unprobed? code? with
          | some target? => .ok (settle target?)
          | none => probing.outcome answers := by
  rw [Lookup.outcome_bind]
  cases (codeAt? url address bytecode).outcome answers with
  | error error => rfl
  | ok code? =>
      change ((unprobed? code?).elim probing fun target? => pure (settle target?)).outcome answers =
        match unprobed? code? with | some target? => _ | none => _
      cases unprobed? code? with
      | some target? => rfl
      | none => rfl

/-- To learn the code of a contract, nothing but this code is asked for. -/
theorem takesPlace_codeAt? {url address : Text} {bytecode : Option Json} {readings : List Reading}
    {outcome : Except LookupError (Option Code)}
    (conversation : (codeAt? url address bytecode).TakesPlace readings outcome) :
    ∀ reading ∈ readings, reading.query = ⟨url, .code address⟩ := by
  have nothing {document : Json} {later : List Reading}
      (spelled : (some <$> Lookup.codeOf document).TakesPlace later outcome) : later = [] := by
    rw [map_eq_pure_bind, Lookup.takesPlace_bind_iff] at spelled
    rcases spelled with ⟨error, -, fails⟩ | ⟨earlier, rest, code, rfl, spells, ends⟩
    · exact (Lookup.takesPlace_codeOf_iff.1 fails).1
    · rw [(Lookup.takesPlace_codeOf_iff.1 spells).1, (Lookup.takesPlace_pure_iff.1 ends).1]
      rfl
  cases bytecode with
  | some bytecode =>
      obtain rfl := nothing conversation
      exact List.forall_mem_nil _
  | none =>
      rcases Lookup.takesPlace_bind_iff.1 conversation with
        ⟨error, -, fails⟩ | ⟨earlier, later, result, rfl, tried, rest⟩
      · obtain ⟨answer, rfl, -⟩ := Lookup.takesPlace_tryRead_iff.1 fails
        simp
      · obtain ⟨answer, rfl, -⟩ := Lookup.takesPlace_tryRead_iff.1 tried
        obtain rfl : later = [] := by
          cases result with
          | ok document => exact nothing rest
          | error error => exact (Lookup.takesPlace_takeNote_pure_iff.1 rest).1
        simp

variable {α : Type} (node : Query → PostOutcome) (url address : Text) (bytecode : Option Json)
  (caches : Caches)

/-- How a search starts: with the code of the contract. -/
def opening : Exchange (Except LookupError (Option Code)) :=
  Dialogue.run node (codeAt? url address bytecode) caches

/-- A search may end in an outcome and have sent the given requests by then. `settle` is what it
makes of what the code settles, and `Probing` relates the caches that the probes find to the
outcomes that they may lead to and the requests that are sent for them. -/
inductive Searches (settle : Option Text → α)
    (Probing : Caches → Except LookupError α → List Query → Prop) :
    Except LookupError α → List Query → Prop where
  | failed {error : LookupError}
      (fails : (opening node url address bytecode caches).value = .error error) :
      Searches settle Probing (.error error) (opening node url address bytecode caches).sent
  | settled {code? : Option Code} {target? : Option Text}
      (opens : (opening node url address bytecode caches).value = .ok code?)
      (isSettled : unprobed? code? = some target?) :
      Searches settle Probing (.ok (settle target?)) (opening node url address bytecode caches).sent
  | probed {code? : Option Code} {outcome : Except LookupError α} {sent : List Query}
      (opens : (opening node url address bytecode caches).value = .ok code?)
      (isOpen : unprobed? code? = none)
      (probing : Probing (opening node url address bytecode caches).caches outcome sent) :
      Searches settle Probing outcome ((opening node url address bytecode caches).sent ++ sent)

variable {node url address bytecode caches}

/-- After its start a search finds caches that reflect the node. -/
theorem reflects_opening (reflects : caches.Reflects fun query => (node query).result) :
    (opening node url address bytecode caches).caches.Reflects fun query => (node query).result :=
  (Dialogue.run_spares _ reflects).2

/-- A search starts with no other request than one for the code of the contract. -/
theorem sent_opening (reflects : caches.Reflects fun query => (node query).result) {query : Query}
    (isSent : query ∈ (opening node url address bytecode caches).sent) :
    query.read.isCode = true := by
  have spares := (Dialogue.run_spares (codeAt? url address bytecode) reflects).1.sent
  obtain ⟨readings, conversation, areSent⟩ :=
    Dialogue.takesPlace_runUncached node (codeAt? url address bytecode)
  have isRead := spares.subset isSent
  rw [← areSent] at isRead
  obtain ⟨reading, isReading, rfl⟩ := List.mem_map.1 isRead
  rw [takesPlace_codeAt? conversation reading isReading]
  rfl

/-- The outcomes of a search, told by the replies of the node. -/
theorem exists_searches_iff (reflects : caches.Reflects fun query => (node query).result)
    {settle : Option Text → α} {Probing : Caches → Except LookupError α → List Query → Prop}
    {outcome : Except LookupError α} :
    (∃ sent, Searches node url address bytecode caches settle Probing outcome sent) ↔
      match (codeAt? url address bytecode).outcome fun query => (node query).result with
      | .error error => outcome = .error error
      | .ok code? =>
          match unprobed? code? with
          | some target? => outcome = .ok (settle target?)
          | none =>
              ∃ sent, Probing (opening node url address bytecode caches).caches outcome sent := by
  have opens : (opening node url address bytecode caches).value =
      (codeAt? url address bytecode).outcome fun query => (node query).result :=
    Lookup.value_run reflects _
  rw [← opens]
  constructor
  · rintro ⟨sent, searches⟩
    cases searches with
    | failed fails => rw [fails]
    | settled opens isSettled => simp only [opens, isSettled]
    | probed opens isOpen probing =>
        simp only [opens, isOpen]
        exact ⟨_, probing⟩
  · split
    next error fails =>
      rintro rfl
      exact ⟨_, .failed fails⟩
    next code? opens =>
      split
      next target? isSettled =>
        rintro rfl
        exact ⟨_, .settled opens isSettled⟩
      next isOpen =>
        rintro ⟨sent, probing⟩
        exact ⟨_, .probed opens isOpen probing⟩

/-- Where code names its target, a search ends with it and asks for nothing but code. -/
theorem Searches.of_named (reflects : caches.Reflects fun query => (node query).result)
    {settle : Option Text → α} {Probing : Caches → Except LookupError α → List Query → Prop}
    {outcome : Except LookupError α} {sent : List Query}
    (searches : Searches node url address bytecode caches settle Probing outcome sent)
    {code : Code} {target : Text}
    (known : (codeAt? url address bytecode).outcome (fun query => (node query).result) =
      .ok (some code))
    (names : literalTarget? code = some target) :
    outcome = .ok (settle (some target)) ∧ ∀ query ∈ sent, query.read.isCode = true := by
  have isCode : code.bytes ≠ [] := by
    rintro isEmpty
    obtain ⟨bytes⟩ := code
    obtain rfl : bytes = [] := isEmpty
    cases names
  have isSettled : unprobed? (some code) = some (some target) := by
    simp [unprobed?, isCode, names]
  have opens : (opening node url address bytecode caches).value = .ok (some code) :=
    (Lookup.value_run reflects _).trans known
  cases searches with
  | failed fails => cases opens.symm.trans fails
  | settled opensToo isSettledToo =>
      obtain rfl := Except.ok.inj (opens.symm.trans opensToo)
      obtain rfl := Option.some.inj (isSettled.symm.trans isSettledToo)
      exact ⟨rfl, fun query isSent => sent_opening reflects isSent⟩
  | probed opensToo isOpen _ =>
      obtain rfl := Except.ok.inj (opens.symm.trans opensToo)
      cases isSettled.symm.trans isOpen

end Proxy

end TokenLens
