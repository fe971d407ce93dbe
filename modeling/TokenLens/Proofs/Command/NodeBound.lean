import TokenLens.Command.Run
import TokenLens.Proofs.Chain.Budget
import TokenLens.Proofs.Verdict.Unambiguous

/-!
# The bound on the command line

A command for the label of a contract asks for the code of no more contracts than the bound that it
is given, the contract itself always included, whatever the environment sets, whatever the node
replies, and in whatever order its probes are run (`CommandLine.keepsTo_nodeBound`). A bound of zero
is the exception: it stands for the bound that the environment sets, which is sixteen where nothing
is set (`CommandLine.nodeBound_zero`).
-/

namespace TokenLens

variable {environment : String → Text} {workplace : Workplace} {arguments : List Text}

namespace Command

/-- What a command leaves behind when the lookup of a label ends in an outcome. -/
def ending : Except LookupError (Option Text) → Except Breakdown CommandOutcome
  | .ok label => .ok (.printed (renderLabel label))
  | .error fault => CommandOutcome.ofError (.lookup fault)

/-- A command for the label of a contract makes one judgement and tells what comes of it. -/
theorem execute_address {settings : Settings}
    (isSet : Settings.ofEnvironment environment = .ok settings) (contract : Text)
    (rpcUrl : Option Text) (maxNodes : Option Int) :
    (Command.address contract rpcUrl maxNodes).execute environment workplace =
      Dialogue.bind (Chain.standardAt (urlFor settings rpcUrl) contract none
        (boundFor settings maxNodes) .bundled) fun outcome => .done (ending outcome) := by
  unfold execute
  rw [isSet]
  refine (Dialogue.bind_bind (Dialogue.bind _ _) _ _).trans ?_
  refine (Dialogue.bind_bind _ _ _).trans ?_
  refine congrArg (Dialogue.bind _) (funext fun outcome => ?_)
  cases outcome with
  | ok label => rfl
  | error fault => rfl

end Command

namespace CommandLine

/-- A command line keeps to a limit if it asks for the code of no more contracts, where each counts
as often as it is asked for. -/
structure KeepsTo (environment : String → Text) (workplace : Workplace) (arguments : List Text)
    (limit : Int) : Prop where
  /-- In each conversation, whatever a node replies and when. -/
  reads {readings : List Reading} {ending : Except Breakdown CommandOutcome}
    (conversation : (run environment workplace arguments).TakesPlace readings ending) :
    ((codeReadings readings).length : Int) ≤ limit
  /-- In each run, whatever is remembered before it. -/
  sends (replies : Query → PostOutcome) (caches : Caches) :
    ((contractsOf (Dialogue.run replies (run environment workplace arguments) caches).sent).length :
      Int) ≤ limit
  /-- On each schedule of the judgement that is asked for, before a node that may change with every
  request. -/
  schedules {settings : Settings} {contract : Text} {rpcUrl : Option Text} {maxNodes : Option Int}
    (isSet : Settings.ofEnvironment environment = .ok settings)
    (asks : Invocation.ofArguments? arguments =
      some (.command (.address contract rpcUrl maxNodes)))
    {node : List Reading → Query → PostOutcome} {past : List Reading} {caches : Caches}
    {outcome : Except LookupError (Option Text)} {after : Session}
    (goes : Chain.judgeCourse node past settings.probeWorkers (Command.urlFor settings rpcUrl)
      contract none (Command.boundFor settings maxNodes) .bundled ⟨caches, []⟩ outcome after) :
    ((contractsOf after.sent).length : Int) ≤ limit

/-- What is sent is covered by what is read. -/
theorem sends_of_reads {limit : Int}
    (reads : ∀ {readings : List Reading} {ending : Except Breakdown CommandOutcome},
      (run environment workplace arguments).TakesPlace readings ending →
        ((codeReadings readings).length : Int) ≤ limit)
    (replies : Query → PostOutcome) (caches : Caches) :
    ((contractsOf (Dialogue.run replies (run environment workplace arguments) caches).sent).length :
      Int) ≤ limit := by
  obtain ⟨readings, conversation, covered⟩ :=
    Dialogue.sent_subperm_run replies (run environment workplace arguments) caches
  have fewer := length_contractsOf_le covered
  have limited := reads conversation
  omega

/-- In a well-formed environment, a command for the label of a contract keeps to the bound that
counts for it. -/
theorem keepsTo_boundFor {settings : Settings} {contract : Text} {rpcUrl : Option Text}
    {maxNodes : Option Int}
    (asks : Invocation.ofArguments? arguments =
      some (.command (.address contract rpcUrl maxNodes)))
    (isSet : Settings.ofEnvironment environment = .ok settings) :
    KeepsTo environment workplace arguments (max 1 (Command.boundFor settings maxNodes)) := by
  have reads {readings : List Reading} {ending : Except Breakdown CommandOutcome}
      (conversation : (run environment workplace arguments).TakesPlace readings ending) :
      ((codeReadings readings).length : Int) ≤ max 1 (Command.boundFor settings maxNodes) := by
    rw [run, asks] at conversation
    dsimp only at conversation
    rw [Command.execute_address isSet] at conversation
    obtain ⟨earlier, later, outcome, rfl, judged, told⟩ :=
      Dialogue.takesPlace_bind_iff.1 conversation
    obtain ⟨rfl, -⟩ := Dialogue.takesPlace_pure_iff.1 told
    rw [List.append_nil]
    exact Chain.standardAt_spends judged
  refine ⟨reads, sends_of_reads reads, ?_⟩
  intro settingsToo contractToo rpcUrlToo maxNodesToo isSetToo asksToo
  obtain rfl := Except.ok.inj (isSet.symm.trans isSetToo)
  cases asks.symm.trans asksToo
  exact Chain.judgeCourse_spends

/-- In a malformed environment, a command asks for no code. -/
theorem keepsTo_zero {command : Command} {fault : SettingsError}
    (asks : Invocation.ofArguments? arguments = some (.command command))
    (malformed : Settings.ofEnvironment environment = .error fault) :
    KeepsTo environment workplace arguments 0 := by
  have reads {readings : List Reading} {ending : Except Breakdown CommandOutcome}
      (conversation : (run environment workplace arguments).TakesPlace readings ending) :
      ((codeReadings readings).length : Int) ≤ 0 := by
    rw [run, asks] at conversation
    dsimp only at conversation
    rw [Command.execute, malformed] at conversation
    obtain ⟨rfl, -⟩ := Dialogue.takesPlace_pure_iff.1 conversation
    exact le_rfl
  refine ⟨reads, sends_of_reads reads, ?_⟩
  intro settings _ _ _ isSet
  cases malformed.symm.trans isSet

/-- What keeps to a limit keeps to any higher one. -/
theorem KeepsTo.mono {limit higher : Int}
    (keeps : KeepsTo environment workplace arguments limit) (le : limit ≤ higher) :
    KeepsTo environment workplace arguments higher where
  reads conversation := (keeps.reads conversation).trans le
  sends replies caches := (keeps.sends replies caches).trans le
  schedules isSet asks _ _ _ _ _ goes := (keeps.schedules isSet asks goes).trans le

/-- A command for the label of a contract keeps to the bound that it is given, but for a bound of
zero, with which it keeps to the bound that is set. -/
theorem keepsTo_nodeBound {contract : Text} {rpcUrl : Option Text} {bound : Int}
    (environment : String → Text) (workplace : Workplace)
    (asks : Invocation.ofArguments? arguments =
      some (.command (.address contract rpcUrl (some bound)))) :
    (bound ≠ 0 → KeepsTo environment workplace arguments (max 1 bound)) ∧
    (bound = 0 → ∀ settings, Settings.ofEnvironment environment = .ok settings →
      KeepsTo environment workplace arguments (max 1 settings.maxProxyNodes)) ∧
    ∀ fault, Settings.ofEnvironment environment = .error fault →
      KeepsTo environment workplace arguments 0 := by
  refine ⟨?_, ?_, fun fault => keepsTo_zero asks⟩
  · intro given
    cases isSet : Settings.ofEnvironment environment with
    | error fault =>
        exact (keepsTo_zero asks isSet).mono (zero_le_one.trans (le_max_left 1 bound))
    | ok settings =>
        have keeps : KeepsTo environment workplace arguments
            (max 1 (Command.boundFor settings (some bound))) := keepsTo_boundFor asks isSet
        rwa [Command.boundFor, if_neg given] at keeps
  · rintro rfl settings isSet
    exact keepsTo_boundFor asks isSet

/-- A command with a bound below zero, given by a start of the name of the option, keeps to one
contract in an environment that sets more. -/
theorem keepsTo_nodeBound_negative :
    let environment : String → Text := fun name => if name = "MAX_PROXY_NODES" then "40" else []
    let arguments : List Text := ["address", "0xA1", "--max", "-1"]
    Invocation.ofArguments? arguments =
      some (.command (.address "0xA1" none (some (-1)))) ∧ (-1 : Int) ≠ 0 ∧
    KeepsTo environment ⟨[], fun _ => none⟩ arguments (max 1 (-1)) := by
  intro environment arguments
  have asks : Invocation.ofArguments? arguments =
      some (.command (.address "0xA1" none (some (-1)))) := by decide +kernel
  refine ⟨asks, by decide, ?_⟩
  exact (keepsTo_nodeBound environment ⟨[], fun _ => none⟩ asks).1 (by decide)

/-- With a bound of zero, where at most one contract is to be asked about, a command asks for the
code of a contract that delegates and of the one that it delegates to. -/
theorem nodeBound_zero :
    let contract : Text := "0x00000000000000000000000000000000000000a1"
    let arguments : List Text := ["address", contract, "--max-nodes", "0"]
    let command := run (fun _ => []) ⟨[], fun _ => none⟩ arguments
    let contracts := contractsOf (Dialogue.run (fun _ => delegatingReply) command .empty).sent
    Invocation.ofArguments? arguments = some (.command (.address contract none (some 0))) ∧
    contracts = [contract, "0x0101010101010101010101010101010101010101"] ∧
    ¬ (contracts.dedup.length : Int) ≤ max 1 0 := by
  intro contract arguments command contracts
  have asks : Invocation.ofArguments? arguments =
      some (.command (.address contract none (some 0))) := by decide +kernel
  have isSet : Settings.ofEnvironment (fun _ => []) = .ok .default :=
    eq_ok_of_toOption (by decide +kernel)
  let url := Settings.default.rpcUrl
  let code : Code := ⟨115 :: (List.replicate 20 1 ++ [244])⟩
  -- The code of the contract itself fits no standard, so there is a walk.
  have fitsNone : Registry.bundled.bestByPoints (Text.mentions code.text) = none := by
    have absent : Text.mentions code.text Registry.transferMark.selector = false ∧
        Text.mentions code.text Registry.ownerMark.selector = false ∧
        Text.mentions code.text Registry.batchMark.selector = false := by decide +kernel
    exact Registry.bundled_chooses_none absent.1 absent.2.1 absent.2.2
  let fetched := Dialogue.run (fun _ => delegatingReply) (Chain.codeAt url contract none) .empty
  have isCode : fetched.value = .ok code := eq_ok_of_toOption (by decide +kernel)
  have sent : (Dialogue.run (fun _ => delegatingReply) command .empty).sent = fetched.sent ++
      (Dialogue.run (fun _ => delegatingReply)
        (Chain.resolve url contract code 16 .bundled) fetched.caches).sent := by
    have sameUrl : Command.urlFor .default none = url := rfl
    have sameBound : Command.boundFor .default (some 0) = 16 := rfl
    simp only [command, run, asks]
    rw [Command.execute_address isSet, Dialogue.run_bind_done, sameUrl, sameBound]
    dsimp only
    exact Chain.sent_run_standardAt isCode fitsNone
  have asked : contracts = [contract, "0x0101010101010101010101010101010101010101"] := by
    change contractsOf (Dialogue.run (fun _ => delegatingReply) command .empty).sent = _
    rw [sent]
    decide +kernel
  refine ⟨asks, asked, ?_⟩
  rw [asked]
  decide +kernel

end CommandLine

end TokenLens
