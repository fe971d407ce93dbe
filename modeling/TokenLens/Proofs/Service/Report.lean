import TokenLens.Proofs.Service.Telling

/-!
# The report on a log of any text

Others may write to a request log as well, so its text can be anything. Lines that are objects are
tallied, whatever they state as their path, and lines that are no documents are passed over, blank
ones among them. But one line that is a document of another kind stops the report, and so does one
that the reader gives up on for its size: then nothing is told about the other lines either
(`App.stats_tells`).
-/

namespace TokenLens

namespace Journal

variable {content line : String}

/-- The lines of a text, blank ones among them. -/
def linesOf (content : String) : List String :=
  (splitLines content.toList).map String.ofList

/-- The object that a line is, without the blanks around it. -/
def objectOf? (line : String) : Option Json :=
  match Json.read (Text.strip line) with
  | .ok (.obj members) => some (.obj members)
  | _ => none

/-- A line that is no object and yet is not passed over: a document of another kind, or a text that
is refused for something else than its form. -/
inductive Stops (line : String) : Prop where
  | otherKind {document : Json} (isRead : Json.read (Text.strip line) = .ok document)
      (noObject : ∀ members, document ≠ .obj members)
  | givenUp {fault : Json.ReadError} (isFault : Json.read (Text.strip line) = .error fault)
      (wellFormed : fault ≠ .malformed)

/-- What a line is to the statistics. -/
inductive CountsAs (line : String) : Line → Prop where
  | entry {document : Json} (isObject : objectOf? line = some document) (goesOn : ¬Stops line) :
      CountsAs line (.entry document)
  | passedOver (noObject : objectOf? line = none) (goesOn : ¬Stops line) : CountsAs line .passedOver
  | fatal (stops : Stops line) : CountsAs line .fatal

/-- A line counts as `CountsAs` lists. -/
theorem countsAs_readLine (line : String) : CountsAs line (readLine line) := by
  unfold readLine
  split
  next members isRead =>
    refine .entry (by rw [objectOf?, isRead]) ?_
    rintro (⟨isReadToo, noObject⟩ | ⟨isFault, -⟩)
    · exact noObject members (Except.ok.inj (isReadToo.symm.trans isRead))
    · cases isFault.symm.trans isRead
  next document noObject isRead => exact .fatal (.otherKind isRead noObject)
  next isFault =>
    refine .passedOver (by rw [objectOf?, isFault]) ?_
    rintro (⟨isRead, -⟩ | ⟨isFaultToo, wellFormed⟩)
    · cases isRead.symm.trans isFault
    · exact wellFormed (Except.error.inj (isFaultToo.symm.trans isFault))
  next isFault => exact .fatal (.givenUp isFault (by decide))
  next isFault => exact .fatal (.givenUp isFault (by decide))

/-- Whether a line stops the reading. -/
def Line.isFatal : Line → Bool
  | .fatal => true
  | _ => false

/-- A line stops the reading exactly if it is fatal to the statistics. -/
theorem isFatal_readLine_iff : (readLine line).isFatal = true ↔ Stops line := by
  have countsAs := countsAs_readLine line
  generalize readLine line = read at countsAs
  cases countsAs with
  | entry _ goesOn => exact iff_of_false Bool.false_ne_true goesOn
  | passedOver _ goesOn => exact iff_of_false Bool.false_ne_true goesOn
  | fatal stops => exact iff_of_true rfl stops

instance (line : String) : Decidable (Stops line) :=
  decidable_of_iff _ isFatal_readLine_iff

/-- Where no line stops the reading, the entries are the lines that are objects. -/
theorem readEntries_of_goesOn {lines : List String} (goesOn : ∀ line ∈ lines, ¬Stops line) :
    readEntries lines = some (lines.filterMap objectOf?) := by
  induction lines with
  | nil => rfl
  | cons line rest inductionHypothesis =>
      obtain ⟨here, later⟩ := List.forall_mem_cons.1 goesOn
      have countsAs := countsAs_readLine line
      rw [readEntries]
      generalize readLine line = read at countsAs ⊢
      cases countsAs with
      | entry isObject => rw [List.filterMap_cons, isObject, inductionHypothesis later]; rfl
      | passedOver noObject => rw [List.filterMap_cons, noObject]; exact inductionHypothesis later
      | fatal stops => exact absurd stops here

/-- A line that stops the reading leaves no entries at all. -/
theorem readEntries_of_stops {lines : List String} (stops : ∃ line ∈ lines, Stops line) :
    readEntries lines = none := by
  obtain ⟨line, isLine, stops⟩ := stops
  induction lines with
  | nil => cases isLine
  | cons first rest inductionHypothesis =>
      have countsAs := countsAs_readLine first
      rw [readEntries]
      generalize readLine first = read at countsAs ⊢
      have isLater (goesOn : ¬Stops first) : line ∈ rest :=
        (List.mem_cons.1 isLine).resolve_left fun same => goesOn (same ▸ stops)
      cases countsAs with
      | entry _ goesOn => rw [inductionHypothesis (isLater goesOn)]; rfl
      | passedOver _ goesOn => exact inductionHypothesis (isLater goesOn)
      | fatal => rfl

/-- Nothing is no document. -/
theorem read_of_blank (isBlank : Text.strip line = []) :
    Json.read (Text.strip line) = .error .malformed := by
  rw [isBlank]
  rfl

/-- A line that is an object or stops the reading is not blank. -/
theorem mem_lines_of_read (isLine : line ∈ linesOf content)
    (isRead : Json.read (Text.strip line) ≠ .error .malformed) : line ∈ lines ⟨some content⟩ := by
  refine List.mem_filter.2 ⟨isLine, ?_⟩
  have notBlank : Text.strip line ≠ [] := fun isBlank => isRead (read_of_blank isBlank)
  simpa using notBlank

/-- The objects among the lines of a text are not blank. -/
theorem filterMap_lines (content : String) :
    (lines ⟨some content⟩).filterMap objectOf? = (linesOf content).filterMap objectOf? := by
  rw [lines, List.filterMap_filter]
  refine List.filterMap_congr fun line _ => ?_
  split
  next => rfl
  next isBlank => rw [objectOf?, read_of_blank (by simpa using isBlank)]

/-- Where no line stops the report, it tallies the lines that are objects. -/
theorem tallies_report (goesOn : ∀ line ∈ linesOf content, ¬Stops line) :
    ∃ counts, (report ⟨some content⟩).Tallies ((linesOf content).filterMap objectOf?) counts := by
  have goesOnThere : ∀ line ∈ lines ⟨some content⟩, ¬Stops line :=
    fun line isLine => goesOn line (List.mem_filter.1 isLine).1
  rw [report, readEntries_of_goesOn goesOnThere, filterMap_lines]
  exact ⟨_, tallies_statistics _⟩

/-- A line that stops the report leaves nothing of it. -/
theorem report_of_stops (stops : ∃ line ∈ linesOf content, Stops line) :
    report ⟨some content⟩ = .page 500 := by
  obtain ⟨line, isLine, stops⟩ := stops
  have isRead : Json.read (Text.strip line) ≠ .error .malformed := by
    intro malformed
    cases stops with
    | otherKind isRead => cases isRead.symm.trans malformed
    | givenUp isFault wellFormed =>
        exact wellFormed (Except.error.inj (isFault.symm.trans malformed))
  rw [report, readEntries_of_stops ⟨line, mem_lines_of_read isLine isRead, stops⟩]

end Journal

namespace App

variable {app : App} {book : Logbook} {request : Request}

/-- Whoever asks an app for the statistics gets the report on its log, and nothing is written. -/
theorem serve_stats {journal : Journal} (isJournal : app.journal? book = some journal)
    (forStats : Service.destination request = .route .stats) (stamp : Stamp) :
    app.serve book stamp request = pure (Service.delivered request journal.report, book) := by
  have isAnswer : Service.answer app.settings (app.journal? book) request =
      pure journal.report := by
    rw [Service.answer, forStats, isJournal]
    rfl
  rw [serve, isAnswer, pure_bind, Service.kept, Service.isLogged_of_stats forStats]
  rfl

/-- Whoever asks an app for the statistics of a log of any text is told about the lines that are
objects: how many there are, how many of each path, and the last twenty in order. All other lines
are passed over, unless one of them is a document of another kind or is refused for something else
than its form. Then the answer is an error page. -/
theorem stats_tells {content : String} (isJournal : app.journal? book = some ⟨some content⟩)
    (forStats : Service.destination request = .route .stats) (stamp : Stamp) :
    ∃ response, app.serve book stamp request = pure (Service.delivered request response, book) ∧
      ((∀ line ∈ Journal.linesOf content, ¬Journal.Stops line) → ∃ counts,
        response.Tallies ((Journal.linesOf content).filterMap Journal.objectOf?) counts) ∧
      ((∃ line ∈ Journal.linesOf content, Journal.Stops line) → response = .page 500) :=
  ⟨_, serve_stats isJournal forStats stamp, Journal.tallies_report, Journal.report_of_stops⟩

/-- A process in which the log of one app has a text that others wrote. -/
def logbookOf (content : String) : Logbook :=
  ⟨"/srv", [], [("/srv/logs/requests.jsonl", content)]⟩

/-- A request for the statistics. -/
def statsRequest : Request :=
  requestOf "GET" "/stats" "" []

/-- A log with a path that is a number, a line that is no document, a blank line, and an object
without a path on a line that does not end. -/
def mixedLog : String :=
  "\x7b\"path\":5\x7d\nnot json\n\n\x7b\x7d"

/-- The two objects of the log are tallied, and its other lines are passed over. -/
theorem stats_tells_mixedLog :
    logging.journal? (logbookOf mixedLog) = some ⟨some mixedLog⟩ ∧
    Service.destination statsRequest = .route .stats ∧
    (∀ line ∈ Journal.linesOf mixedLog, ¬Journal.Stops line) ∧
    ∃ response documents counts,
      logging.serve (logbookOf mixedLog) unmeasured statsRequest =
        pure (response, logbookOf mixedLog) ∧
      documents.map (Json.write .compact) = ["\x7b\"path\":5\x7d", "\x7b\x7d"] ∧
      response.Tallies documents counts := by
  have isJournal : logging.journal? (logbookOf mixedLog) = some ⟨some mixedLog⟩ := by decide
  have forStats : Service.destination statsRequest = .route .stats := by decide
  have goesOn : ∀ line ∈ Journal.linesOf mixedLog, ¬Journal.Stops line := by decide +kernel
  obtain ⟨response, served, tells, -⟩ := stats_tells isJournal forStats unmeasured
  obtain ⟨counts, tallies⟩ := tells goesOn
  exact ⟨isJournal, forStats, goesOn, response, _, counts, served, by decide +kernel, tallies⟩

/-- A log with a number behind an object. -/
def stoppedLog : String :=
  "\x7b\"path\":\"/proxy\"\x7d\n5\n"

/-- The number is a document of another kind, so the object before it is not told about either. -/
theorem stats_loses :
    (∀ line ∈ Journal.linesOf stoppedLog, Journal.Stops line → line = "5") ∧
    ((Journal.linesOf stoppedLog).filterMap Journal.objectOf?).length = 1 ∧
    logging.serve (logbookOf stoppedLog) unmeasured statsRequest =
      pure (.page 500, logbookOf stoppedLog) ∧
    ∀ documents counts, ¬(Response.page 500).Tallies documents counts := by
  have isJournal : logging.journal? (logbookOf stoppedLog) = some ⟨some stoppedLog⟩ := by decide
  have forStats : Service.destination statsRequest = .route .stats := by decide
  have stops : ∃ line ∈ Journal.linesOf stoppedLog, Journal.Stops line := by decide +kernel
  refine ⟨by decide +kernel, by decide +kernel, ?_, fun _ _ tallies => ?_⟩
  · rw [serve_stats isJournal forStats, Journal.report_of_stops stops]
    rfl
  · exact absurd tallies.status (by decide)

end App

end TokenLens
