import TokenLens.Command.Run
import TokenLens.Proofs.Abi.Refusal
import TokenLens.Proofs.Evm.Presentation
import TokenLens.Proofs.Outcome

/-!
# How commands end

A command that asks no node ends with exit code 2 if the environment is malformed or its input is
invalid, and with exit code 0 otherwise, unless it breaks down (`CommandLine.offline_ends`). It
breaks down on an ABI that breaks the reading down, and where an option was given without a value
that counts: an empty text is no source of an ABI to list selectors from, though an absent option
would have been refused, and two dashes behind an equals sign leave no value at all.
-/

namespace TokenLens

namespace Abi

/-- The text of an ABI that is invalid: it spells no document, or one that is refused. -/
def TextIsInvalid (text : Text) : Prop :=
  (∃ fault, Json.read text = .error fault ∧ fault ≠ .tooDeep) ∨
    ∃ document, Json.read text = .ok document ∧ IsRefused document

/-- The text of an ABI that breaks the reading down: it is nested too deeply, or spells a document
that breaks the reading down. -/
def TextBreaksDown (text : Text) : Prop :=
  Json.read text = .error .tooDeep ∨ ∃ document, Json.read text = .ok document ∧ BreaksDown document

/-- A text that breaks the reading down is not invalid. -/
theorem TextBreaksDown.not_textIsInvalid {text : Text} (breaks : TextBreaksDown text) :
    ¬ TextIsInvalid text := by
  rintro (⟨fault, misread, shallow⟩ | ⟨document, read, refused⟩)
  · rcases breaks with deep | ⟨document, read, -⟩
    · exact shallow (Except.error.inj (misread.symm.trans deep))
    · cases misread.symm.trans read
  · rcases breaks with deep | ⟨documentToo, readToo, breaks⟩
    · cases read.symm.trans deep
    · obtain rfl := Except.ok.inj (read.symm.trans readToo)
      exact breaks.not_isRefused refused

end Abi

variable {environment : String → Text} {workplace : Workplace} {arguments : List Text}
  {source : Text}

namespace CommandOutcome

/-- What is left when a command ends in a text or fails. -/
def ofResult : Except CommandError Text → Except Breakdown CommandOutcome
  | .ok text => .ok (printed text)
  | .error fault => ofError fault

end CommandOutcome

namespace Workplace

/-- The selectors of the ABI that a source stands for. -/
def selectorsOf (workplace : Workplace) (source : Text) : Except CommandError SelectorSet := do
  let abi ← workplace.readAbi source
  (Abi.selectors abi).mapError fun fault => .invalid (.abi fault)

/-- How the search for the selectors of a source ends, by the text that is read. -/
inductive Selects (text : Text) : Except CommandError SelectorSet → Prop where
  | accepted {selectors : SelectorSet} (valid : ¬ Abi.TextIsInvalid text)
      (unbroken : ¬ Abi.TextBreaksDown text) : Selects text (.ok selectors)
  | refused {fault : CommandError} {reason : Text} (invalid : Abi.TextIsInvalid text)
      (isRefused : CommandOutcome.ofError fault = .ok (.refused reason)) :
      Selects text (.error fault)
  | broken {fault : CommandError} {cause : Breakdown} (breaks : Abi.TextBreaksDown text)
      (isBroken : CommandOutcome.ofError fault = .error cause) : Selects text (.error fault)

/-- The search for selectors ends as the text of the source says. -/
theorem selects_selectorsOf (workplace : Workplace) (source : Text) :
    Selects (workplace.read source) (workplace.selectorsOf source) := by
  unfold selectorsOf readAbi
  cases isRead : Json.read (workplace.read source) with
  | error fault =>
      cases fault with
      | tooDeep => exact .broken (.inl isRead) rfl
      | _ => exact .refused (.inl ⟨_, isRead, nofun⟩) rfl
  | ok document =>
      have concludes := Abi.concludes_selectors document
      change Selects _ ((Abi.selectors document).mapError _)
      generalize Abi.selectors document = outcome at concludes ⊢
      cases concludes with
      | accepted accepted =>
          refine .accepted ?_ ?_
          · rintro (⟨fault, misread, -⟩ | ⟨documentToo, readToo, refused⟩)
            · cases misread.symm.trans isRead
            · obtain rfl := Except.ok.inj (isRead.symm.trans readToo)
              exact accepted.not_isRefused refused
          · rintro (deep | ⟨documentToo, readToo, breaks⟩)
            · cases deep.symm.trans isRead
            · obtain rfl := Except.ok.inj (isRead.symm.trans readToo)
              exact accepted.not_breaksDown breaks
      | @refused fault refused unbroken =>
          have isRefused : CommandOutcome.ofError (.invalid (.abi fault)) =
              .ok (.refused (InvalidInput.abi fault).message) := by
            simp only [CommandOutcome.ofError, InvalidInput.breakdown?, unbroken]
          exact .refused (.inr ⟨document, isRead, refused⟩) isRefused
      | @broken fault cause breaks isBroken =>
          have isBroken : CommandOutcome.ofError (.invalid (.abi fault)) = .error cause := by
            simp only [CommandOutcome.ofError, InvalidInput.breakdown?, isBroken]
          exact .broken (.inr ⟨document, isRead, breaks⟩) isBroken

/-- The code that a source stands for. -/
def codeOf (workplace : Workplace) (source : Text) : Except CommandError Code :=
  (Code.ofJson (workplace.readBytecode source)).mapError fun fault => .invalid (.code fault)

/-- The code of a source is found if the text that is read spells code, and refused otherwise. -/
theorem cases_codeOf (workplace : Workplace) (source : Text) :
    (∃ code, workplace.codeOf source = .ok code ∧
      Code.ofText (workplace.read source) = .ok code) ∨
    ∃ fault, workplace.codeOf source = .error (.invalid (.code fault)) ∧
      ∀ code, Code.ofText (workplace.read source) ≠ .ok code := by
  have isText : Code.ofJson (workplace.readBytecode source) =
      Code.ofText (Text.strip (workplace.read source)) := rfl
  rw [codeOf, isText]
  cases spelled : Code.ofText (Text.strip (workplace.read source)) with
  | ok code => exact .inl ⟨code, rfl, Code.ofText_strip_eq_ok_iff.1 spelled⟩
  | error fault =>
      refine .inr ⟨fault, rfl, fun code isCode => ?_⟩
      cases spelled.symm.trans (Code.ofText_strip_eq_ok_iff.2 isCode)

end Workplace

namespace Command

/-- A command that asks no node. -/
inductive IsOffline : Command → Prop where
  | abi (source : Text) (percent : Given Binary64) : IsOffline (.abi source percent)
  | bytecode (source : Text) (percent : Given Binary64) : IsOffline (.bytecode source percent)
  | sigs (source : SelectorSource) (describe : Bool) : IsOffline (.sigs source describe)

/-- The ABI or the code that a command is about is invalid. -/
inductive HasInvalidInput (workplace : Workplace) : Command → Prop where
  | abi {source : Text} {percent : Given Binary64}
      (invalid : Abi.TextIsInvalid (workplace.read source)) :
      HasInvalidInput workplace (.abi source percent)
  | bytecode {source : Text} {percent : Given Binary64}
      (invalid : ∀ code, Code.ofText (workplace.read source) ≠ .ok code) :
      HasInvalidInput workplace (.bytecode source percent)
  | listOfAbi {source : Text} {describe : Bool} (given : source ≠ [])
      (invalid : Abi.TextIsInvalid (workplace.read source)) :
      HasInvalidInput workplace (.sigs (.abi source) describe)
  | listOfCode {source : Text} {describe : Bool}
      (invalid : ∀ code, Code.ofText (workplace.read source) ≠ .ok code) :
      HasInvalidInput workplace (.sigs (.bytecode source) describe)

/-- A command breaks down: on its ABI, or where an option was given no value that counts. -/
inductive BreaksDown (workplace : Workplace) : Command → Prop where
  | abi {source : Text} {percent : Given Binary64}
      (breaks : Abi.TextBreaksDown (workplace.read source)) :
      BreaksDown workplace (.abi source percent)
  | thresholdOfAbi {source : Text} (valid : ¬ Abi.TextIsInvalid (workplace.read source)) :
      BreaksDown workplace (.abi source .vacant)
  | thresholdOfCode {source : Text} {code : Code}
      (valid : Code.ofText (workplace.read source) = .ok code) :
      BreaksDown workplace (.bytecode source .vacant)
  | listOfNothing {describe : Bool} : BreaksDown workplace (.sigs .nowhere describe)
  | listOfEmptyText {describe : Bool} : BreaksDown workplace (.sigs (.abi []) describe)
  | listOfAbi {source : Text} {describe : Bool} (given : source ≠ [])
      (breaks : Abi.TextBreaksDown (workplace.read source)) :
      BreaksDown workplace (.sigs (.abi source) describe)

variable {command : Command}

/-- How a command ends in a well-formed environment. -/
inductive Ends (workplace : Workplace) (command : Command) :
    Except Breakdown CommandOutcome → Prop where
  | printed {text : Text} (valid : ¬ command.HasInvalidInput workplace)
      (unbroken : ¬ command.BreaksDown workplace) : Ends workplace command (.ok (.printed text))
  | refused {reason : Text} (invalid : command.HasInvalidInput workplace)
      (unbroken : ¬ command.BreaksDown workplace) : Ends workplace command (.ok (.refused reason))
  | broken {cause : Breakdown} (valid : ¬ command.HasInvalidInput workplace)
      (breaks : command.BreaksDown workplace) : Ends workplace command (.error cause)

/-- What a command leaves behind whose result asks no node. -/
theorem execute_of_offline {settings : Settings} {computed : Except CommandError Text}
    (isSet : Settings.ofEnvironment environment = .ok settings)
    (isResult : command.result workplace settings = offline computed) :
    command.execute environment workplace = pure (CommandOutcome.ofResult computed) := by
  rw [execute, isSet]
  simp only [isResult]
  cases computed with
  | ok text => rfl
  | error fault => rfl

/-- The result of a command about an ABI, by the selectors of its source. -/
theorem result_abi (settings : Settings) (percent : Given Binary64) :
    (Command.abi source percent).result workplace settings = offline (do
      let selectors ← workplace.selectorsOf source
      let (strategy, threshold) := strategyFor percent
      requireThreshold percent
      return renderLabel (Registry.bundled.best selectors.contains strategy threshold)) := by
  refine congrArg offline ?_
  rw [Workplace.selectorsOf]
  cases workplace.readAbi source with
  | error fault => rfl
  | ok document =>
      dsimp only [bind, Except.bind, classifyAbi]
      cases Abi.selectors document with
      | error fault => rfl
      | ok selectors => rfl

/-- The result of a command about code, by the code of its source. -/
theorem result_bytecode (settings : Settings) (percent : Given Binary64) :
    (Command.bytecode source percent).result workplace settings = offline (do
      let code ← workplace.codeOf source
      let (strategy, threshold) := strategyFor percent
      requireThreshold percent
      return renderVerdict (code.verdict .bundled strategy threshold)) := by
  refine congrArg offline ?_
  rw [Workplace.codeOf]
  simp only [classifyCode]
  cases Code.ofJson (workplace.readBytecode source) with
  | error fault => rfl
  | ok code => rfl

/-- The list of the selectors of an ABI, by the selectors of its source. -/
theorem listSelectors_abi (given : source ≠ []) (describe : Bool) :
    listSelectors workplace describe (.abi source) =
      (workplace.selectorsOf source).map SelectorSet.toList := by
  have notEmpty : source.isEmpty = false := by simpa using given
  rw [listSelectors, notEmpty, Workplace.selectorsOf]
  cases workplace.readAbi source with
  | error fault => rfl
  | ok document =>
      change (do return SelectorSet.toList (← (Abi.selectors document).mapError _)) =
        Except.map _ ((Abi.selectors document).mapError _)
      cases Abi.selectors document with
      | error fault => rfl
      | ok selectors => rfl

/-- The list of the selectors of code is found if the code of its source is. -/
theorem listSelectors_bytecode (describe : Bool) :
    ∃ list : Code → List Text, listSelectors workplace describe (.bytecode source) =
      (workplace.codeOf source).map list := by
  refine ⟨fun code => if describe then
    (Registry.bundled.describeLiterals code).map renderDescribed else code.literals.toList, ?_⟩
  rw [listSelectors, Workplace.codeOf]
  cases Code.ofJson (workplace.readBytecode source) with
  | error fault => rfl
  | ok code => cases describe <;> rfl

section Cases

variable {settings : Settings} (isSet : Settings.ofEnvironment environment = .ok settings)
  (workplace : Workplace)
include isSet

/-- How a command about an ABI ends. -/
theorem exists_ends_abi (source : Text) (percent : Given Binary64) :
    ∃ ending, (Command.abi source percent).execute environment workplace = pure ending ∧
      Ends workplace (.abi source percent) ending := by
  refine ⟨_, execute_of_offline isSet (result_abi settings percent), ?_⟩
  have selects := workplace.selects_selectorsOf source
  generalize workplace.selectorsOf source = outcome at selects ⊢
  cases selects with
  | @accepted selectors valid unbroken =>
      have validInput : ¬ HasInvalidInput workplace (.abi source percent) :=
        fun (.abi invalid) => valid invalid
      -- The ABI is read before the threshold, so only a valid one comes to the missing value.
      cases percent with
      | vacant => exact .broken validInput (.thresholdOfAbi valid)
      | _ => exact .printed validInput fun (.abi breaks) => unbroken breaks
  | @refused fault reason invalid isRefused =>
      change Ends workplace _ (CommandOutcome.ofError fault)
      rw [isRefused]
      refine .refused (.abi invalid) ?_
      rintro (breaks | valid)
      · exact breaks.not_textIsInvalid invalid
      · exact valid invalid
  | @broken fault cause breaks isBroken =>
      change Ends workplace _ (CommandOutcome.ofError fault)
      rw [isBroken]
      exact .broken (fun (.abi invalid) => breaks.not_textIsInvalid invalid) (.abi breaks)

/-- How a command about code ends. -/
theorem exists_ends_bytecode (source : Text) (percent : Given Binary64) :
    ∃ ending, (Command.bytecode source percent).execute environment workplace = pure ending ∧
      Ends workplace (.bytecode source percent) ending := by
  refine ⟨_, execute_of_offline isSet (result_bytecode settings percent), ?_⟩
  rcases workplace.cases_codeOf source with ⟨code, isCode, spelled⟩ | ⟨fault, isFault, invalid⟩
  · rw [isCode]
    have validInput : ¬ HasInvalidInput workplace (.bytecode source percent) :=
      fun (.bytecode invalid) => invalid code spelled
    cases percent with
    | vacant => exact .broken validInput (.thresholdOfCode spelled)
    | _ => exact .printed validInput nofun
  · rw [isFault]
    exact .refused (.bytecode invalid) fun (.thresholdOfCode spelled) => invalid _ spelled

/-- A list of selectors is what is left behind of it. -/
theorem execute_sigs (source : SelectorSource) (describe : Bool) :
    (Command.sigs source describe).execute environment workplace =
      pure (CommandOutcome.ofResult do
        return List.intercalate "\n" (← listSelectors workplace describe source)) :=
  execute_of_offline isSet rfl

/-- How a list of the selectors of an ABI ends. -/
theorem exists_ends_listOfAbi (given : source ≠ []) (describe : Bool) :
    ∃ ending, (Command.sigs (.abi source) describe).execute environment workplace = pure ending ∧
      Ends workplace (.sigs (.abi source) describe) ending := by
  refine ⟨_, execute_sigs isSet workplace _ describe, ?_⟩
  rw [listSelectors_abi given]
  have selects := workplace.selects_selectorsOf source
  generalize workplace.selectorsOf source = outcome at selects ⊢
  cases selects with
  | @accepted selectors valid unbroken =>
      refine .printed (fun (.listOfAbi _ invalid) => valid invalid) ?_
      rintro (_ | _ | _ | _ | _ | ⟨_, breaks⟩)
      · exact given rfl
      · exact unbroken breaks
  | @refused fault reason invalid isRefused =>
      change Ends workplace _ (CommandOutcome.ofError fault)
      rw [isRefused]
      refine .refused (.listOfAbi given invalid) ?_
      rintro (_ | _ | _ | _ | _ | ⟨_, breaks⟩)
      · exact given rfl
      · exact breaks.not_textIsInvalid invalid
  | @broken fault cause breaks isBroken =>
      change Ends workplace _ (CommandOutcome.ofError fault)
      rw [isBroken]
      refine .broken ?_ (.listOfAbi given breaks)
      exact fun (.listOfAbi _ invalid) => breaks.not_textIsInvalid invalid

/-- How a list of the selectors of code ends. -/
theorem exists_ends_listOfCode (source : Text) (describe : Bool) :
    ∃ ending,
      (Command.sigs (.bytecode source) describe).execute environment workplace = pure ending ∧
      Ends workplace (.sigs (.bytecode source) describe) ending := by
  refine ⟨_, execute_sigs isSet workplace _ describe, ?_⟩
  obtain ⟨list, isList⟩ := @listSelectors_bytecode workplace source describe
  rw [isList]
  rcases workplace.cases_codeOf source with ⟨code, isCode, spelled⟩ | ⟨fault, isFault, invalid⟩
  · rw [isCode]
    exact .printed (fun (.listOfCode invalid) => invalid code spelled) nofun
  · rw [isFault]
    exact .refused (.listOfCode invalid) nofun

/-- A command that asks no node ends without one, as `Ends` says. -/
theorem IsOffline.exists_ends (isOffline : command.IsOffline) :
    ∃ ending, command.execute environment workplace = pure ending ∧
      command.Ends workplace ending := by
  cases isOffline with
  | abi source percent => exact exists_ends_abi isSet workplace source percent
  | bytecode source percent => exact exists_ends_bytecode isSet workplace source percent
  | sigs source describe =>
      cases source with
      | nowhere =>
          refine ⟨_, execute_sigs isSet workplace _ describe, ?_⟩
          exact .broken nofun .listOfNothing
      | abi source =>
          by_cases given : source = []
          · subst given
            refine ⟨_, execute_sigs isSet workplace _ describe, ?_⟩
            exact .broken (fun (.listOfAbi given _) => given rfl) .listOfEmptyText
          · exact exists_ends_listOfAbi isSet workplace given describe
      | bytecode source => exact exists_ends_listOfCode isSet workplace source describe

end Cases

end Command

namespace Settings

/-- A variable for a positive number is absent, or states one. -/
def StatesPositive (value : Text) : Prop :=
  value = [] ∨ ∃ number, Numeral.readInteger? value = some number ∧ 1 ≤ number

/-- An environment in which every variable is absent or well-formed. -/
structure IsWellFormed (environment : String → Text) : Prop where
  maxProxyNodes : StatesPositive (environment "MAX_PROXY_NODES")
  probeWorkers : StatesPositive (environment "PROBE_WORKERS")
  logLevel : environment "LOG_LEVEL" = [] ∨ Text.upper (environment "LOG_LEVEL") ∈ logLevels

/-- A positive number is read if the variable for it is absent or states one. -/
theorem exists_positive_iff {name value : Text} {absent : Int} :
    (∃ number, positive name value absent = .ok number) ↔ StatesPositive value := by
  unfold positive StatesPositive
  cases value with
  | nil => simp
  | cons first rest =>
      simp only [List.isEmpty_cons, Bool.false_eq_true, if_false, reduceCtorEq, false_or]
      cases Numeral.readInteger? (first :: rest) with
      | none => simp
      | some number =>
          by_cases small : number < 1
          · simp [small, not_le.2 small]
          · simp [small, not_lt.1 small]

/-- A log level is read if it is absent or known. -/
theorem exists_level_iff {value absent : Text} :
    (∃ known, level value absent = .ok known) ↔ value = [] ∨ Text.upper value ∈ logLevels := by
  unfold level
  cases value with
  | nil => simp
  | cons first rest =>
      by_cases isKnown : Text.upper (first :: rest) ∈ logLevels
      · simp [isKnown]
      · simp [isKnown]

/-- The settings are read of well-formed environments, and of no others. -/
theorem exists_ofEnvironment_iff :
    (∃ settings, ofEnvironment environment = .ok settings) ↔ IsWellFormed environment := by
  constructor
  · rintro ⟨settings, isSet⟩
    obtain ⟨maxNodes, areNodes, isSet⟩ := exists_of_bind_eq_ok isSet
    obtain ⟨workers, areWorkers, isSet⟩ := exists_of_bind_eq_ok isSet
    obtain ⟨known, isKnown, -⟩ := exists_of_bind_eq_ok isSet
    exact ⟨exists_positive_iff.1 ⟨maxNodes, areNodes⟩, exists_positive_iff.1 ⟨workers, areWorkers⟩,
      exists_level_iff.1 ⟨known, isKnown⟩⟩
  · rintro ⟨maxNodes, workers, known⟩
    obtain ⟨_, areNodes⟩ := exists_positive_iff.2 maxNodes
    obtain ⟨_, areWorkers⟩ := exists_positive_iff.2 workers
    obtain ⟨_, isKnown⟩ := exists_level_iff.2 known
    rw [ofEnvironment, areNodes, areWorkers, isKnown]
    exact ⟨_, rfl⟩

end Settings

namespace CommandLine

/-- A command that asks no node ends with exit code 2 if the environment is malformed or the input
is invalid, with a breakdown if it breaks down in a well-formed environment, and with exit code 0
otherwise. -/
theorem offline_ends {command : Command}
    (asks : Invocation.ofArguments? arguments = some (.command command))
    (isOffline : command.IsOffline) (environment : String → Text) (workplace : Workplace) :
    ∃ ending, run environment workplace arguments = pure ending ∧
      ((∃ outcome, ending = .ok outcome ∧ outcome.exitCode = 2) ↔
        ¬ Settings.IsWellFormed environment ∨ command.HasInvalidInput workplace) ∧
      ((∃ cause, ending = .error cause) ↔
        Settings.IsWellFormed environment ∧ command.BreaksDown workplace) ∧
      ((∃ outcome, ending = .ok outcome ∧ outcome.exitCode = 0) ↔
        Settings.IsWellFormed environment ∧ ¬ command.HasInvalidInput workplace ∧
          ¬ command.BreaksDown workplace) := by
  rw [run, asks]
  dsimp only
  cases isSet : Settings.ofEnvironment environment with
  | error fault =>
      have malformed : ¬ Settings.IsWellFormed environment := fun wellFormed => by
        obtain ⟨settings, isSetToo⟩ := Settings.exists_ofEnvironment_iff.2 wellFormed
        cases isSet.symm.trans isSetToo
      refine ⟨.ok (.refused fault.message), ?_, ?_⟩
      · rw [Command.execute, isSet]
      · simp [malformed, CommandOutcome.refused]
  | ok settings =>
      have wellFormed := Settings.exists_ofEnvironment_iff.1 ⟨settings, isSet⟩
      obtain ⟨ending, isEnding, ends⟩ := Command.IsOffline.exists_ends isSet workplace isOffline
      refine ⟨ending, isEnding, ?_⟩
      cases ends with
      | printed valid unbroken => simp [wellFormed, valid, unbroken, CommandOutcome.printed]
      | refused invalid unbroken => simp [wellFormed, invalid, unbroken, CommandOutcome.refused]
      | broken valid breaks => simp [wellFormed, valid, breaks]

/-- A list of the selectors of a file whose text breaks off ends with exit code 2. -/
theorem offline_ends_brokenOff :
    let arguments : List Text := ["sigs", "--describe", "--a", "token.json"]
    let workplace : Workplace :=
      ⟨[], fun name => if name = "token.json" then some "[\x7b\"type\": " else none⟩
    Invocation.ofArguments? arguments =
      some (.command (.sigs (.abi "token.json") true)) ∧
    (Command.sigs (.abi "token.json") true).IsOffline ∧
    ∃ outcome, run (fun _ => []) workplace arguments = pure (.ok outcome) ∧
      outcome.exitCode = 2 := by
  intro arguments workplace
  have asks : Invocation.ofArguments? arguments =
      some (.command (.sigs (.abi "token.json") true)) := by decide +kernel
  have misread : Json.read (workplace.read "token.json") = .error .malformed :=
    eq_error_of_failure? (by decide +kernel)
  have invalid : (Command.sigs (.abi "token.json") true).HasInvalidInput workplace :=
    .listOfAbi (by decide) (.inl ⟨_, misread, nofun⟩)
  obtain ⟨ending, isEnding, refused, -⟩ := offline_ends asks (.sigs _ _) (fun _ => []) workplace
  obtain ⟨outcome, rfl, isTwo⟩ := refused.2 (.inr invalid)
  exact ⟨asks, .sigs _ _, outcome, isEnding, isTwo⟩

/-- An empty text as the source of an ABI breaks a list of its selectors down, though it spells no
document. -/
theorem offline_emptySource :
    let arguments : List Text := ["sigs", "--abi", ""]
    let workplace : Workplace := ⟨[], fun _ => none⟩
    Invocation.ofArguments? arguments = some (.command (.sigs (.abi []) false)) ∧
    Abi.TextIsInvalid (workplace.read []) ∧
    run (fun _ => []) workplace arguments = pure (.error .noSource) := by
  intro arguments workplace
  have asks : Invocation.ofArguments? arguments = some (.command (.sigs (.abi []) false)) := by
    decide +kernel
  have misread : Json.read (workplace.read []) = .error .malformed :=
    eq_error_of_failure? (by decide +kernel)
  refine ⟨asks, .inl ⟨_, misread, nofun⟩, ?_⟩
  rw [run, asks]
  rfl

end CommandLine

end TokenLens
