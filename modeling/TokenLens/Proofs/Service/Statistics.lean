import TokenLens.Proofs.Service.Lines

/-!
# The statistics of a request log

What is reported on documents, whoever wrote them: how many there are, how many of each path, and
the last twenty of them in order (`Journal.tallies_statistics`). On a log that holds the lines of
entries and nothing else, this is what there is to say about the entries
(`Journal.reports_report`).
-/

namespace TokenLens

/-- How many entries state a path. -/
def LogEntry.countOf (path : Text) (entries : List LogEntry) : Nat :=
  entries.countP fun entry => Text.ofString entry.path = path

/-- A response that reports on entries: their number, the number of those of each path that any of
them states, and the last twenty. -/
structure Response.Reports (response : Response) (entries : List LogEntry)
    (counts : List (Text × Json)) : Prop where
  status : response.status = 200
  body : response.body = some (.obj
    [("total_requests", .int entries.length), ("by_path", .obj counts),
     ("recent", .arr ((entries.drop (entries.length - 20)).map LogEntry.toJson))])
  keys : (counts.map Prod.fst).Nodup
  count : ∀ path, Keyed.get? path counts =
    if 0 < LogEntry.countOf path entries then some (.int (LogEntry.countOf path entries)) else none

/-- A response that tallies documents: their number, the number of those of each path that any of
them states as text, and the last twenty in order. The numbers of all paths add up to that of the
documents. -/
structure Response.Tallies (response : Response) (documents : List Json)
    (counts : List (Text × Nat)) : Prop where
  status : response.status = 200
  body : response.body = some (.obj
    [("total_requests", .int documents.length),
     ("by_path", .obj (counts.map fun (path, count) => (path, .int count))),
     ("recent", .arr (documents.drop (documents.length - 20)))])
  keys : (counts.map Prod.fst).Nodup
  count : ∀ path, Keyed.get? path counts =
    if 0 < documents.countP (fun document => Journal.pathOf document = path) then
      some (documents.countP fun document => Journal.pathOf document = path) else none
  sum : (counts.map Prod.snd).sum = documents.length

namespace Journal

/-- The path that an entry states is its path. -/
theorem pathOf_toJson (entry : LogEntry) : pathOf entry.toJson = Text.ofString entry.path := by
  have isFound : Keyed.get? "path" entry.members = some (.str entry.path) := by
    rw [LogEntry.get?_members (by decide), LogEntry.commonMembers, Keyed.get?, if_neg (by decide),
      Keyed.get?, if_pos rfl]
  rw [pathOf, LogEntry.toJson, Json.member?, isFound]
  rfl

/-- What stands for a number of documents where there are counts: none stands for zero. -/
def stated (count : Nat) : Option Nat :=
  if 0 < count then some count else none

/-- A number is read off what stands for it. -/
theorem getD_stated (count : Nat) : (stated count).getD 0 = count := by
  rw [stated]
  split
  next => rfl
  next isZero => exact (Nat.eq_zero_of_not_pos isZero).symm

/-- The documents of each path are counted. -/
theorem get?_countByPath (documents : List Json) (path : Text) :
    Keyed.get? path (countByPath documents) =
      stated (documents.countP fun document => pathOf document = path) := by
  -- What was counted before is carried along as a function of the path.
  suffices onwards : ∀ (counts : List (Text × Nat)) (before : Text → Nat),
      (∀ path, Keyed.get? path counts = stated (before path)) → ∀ path,
        Keyed.get? path (documents.foldl
          (fun counts entry =>
            Keyed.insert (pathOf entry) ((Keyed.get? (pathOf entry) counts).getD 0 + 1) counts)
          counts) =
          stated (before path + documents.countP fun document => pathOf document = path) by
    rw [countByPath]
    simpa using onwards [] (fun _ => 0) (fun _ => rfl) path
  induction documents with
  | nil => intro counts before isBefore path; exact isBefore path
  | cons document rest inductionHypothesis =>
      intro counts before isBefore path
      have isNext (other : Text) :
          Keyed.get? other (Keyed.insert (pathOf document)
              ((Keyed.get? (pathOf document) counts).getD 0 + 1) counts) =
            stated (before other + if pathOf document = other then 1 else 0) := by
        rw [isBefore, getD_stated]
        by_cases same : other = pathOf document
        · rw [same, Keyed.get?_insert_self, if_pos rfl, stated, if_pos (Nat.succ_pos _)]
        · rw [Keyed.get?_insert_of_ne same, isBefore, if_neg (Ne.symm same), Nat.add_zero]
      rw [List.foldl_cons, inductionHypothesis _ _ isNext path, List.countP_cons]
      by_cases same : pathOf document = path
      · rw [if_pos same, if_pos (decide_eq_true same), Nat.add_assoc, Nat.add_comm 1]
      · rw [if_neg same, if_neg (by simpa using same), Nat.add_zero, Nat.add_zero]

/-- Each path is counted in one place. -/
theorem nodup_countByPath (documents : List Json) :
    ((countByPath documents).map Prod.fst).Nodup := by
  suffices onwards : ∀ counts : List (Text × Nat), (counts.map Prod.fst).Nodup →
      ((documents.foldl
        (fun counts entry =>
          Keyed.insert (pathOf entry) ((Keyed.get? (pathOf entry) counts).getD 0 + 1) counts)
        counts).map Prod.fst).Nodup from
    onwards [] List.nodup_nil
  induction documents with
  | nil => exact fun _ apart => apart
  | cons document rest inductionHypothesis =>
      exact fun _ apart => inductionHypothesis _ (Keyed.nodup_keys_insert apart)

/-- The counts of all paths add up to the number of the documents. -/
theorem sum_countByPath (documents : List Json) :
    ((countByPath documents).map Prod.snd).sum = documents.length := by
  suffices onwards : ∀ counts : List (Text × Nat),
      ((documents.foldl
        (fun counts entry =>
          Keyed.insert (pathOf entry) ((Keyed.get? (pathOf entry) counts).getD 0 + 1) counts)
        counts).map Prod.snd).sum = (counts.map Prod.snd).sum + documents.length by
    rw [countByPath, onwards [], List.map_nil, List.sum_nil, Nat.zero_add]
  induction documents with
  | nil => exact fun _ => rfl
  | cons document rest inductionHypothesis =>
      intro counts
      have oneMore := Keyed.sum_insert (pathOf document)
        ((Keyed.get? (pathOf document) counts).getD 0 + 1) counts
      rw [List.foldl_cons, inductionHypothesis, List.length_cons]
      omega

/-- The statistics of documents tally them. -/
theorem tallies_statistics (documents : List Json) :
    (Response.document 200 (statistics documents)).Tallies documents (countByPath documents) where
  status := rfl
  body := rfl
  keys := nodup_countByPath documents
  count path := get?_countByPath documents path
  sum := sum_countByPath documents

/-- A count as a document is found where the count is. -/
theorem get?_map_int (path : Text) (counts : List (Text × Nat)) :
    Keyed.get? path (counts.map fun (path, count) => (path, Json.int count)) =
      (Keyed.get? path counts).map fun count => Json.int count := by
  induction counts with
  | nil => rfl
  | cons entry rest inductionHypothesis =>
      rw [List.map_cons, Keyed.get?, Keyed.get?, inductionHypothesis]
      split <;> rfl

/-- What is reported on a log of entries. -/
theorem reports_report {entries : List LogEntry} (arePlain : ∀ entry ∈ entries, entry.IsPlain) :
    ∃ counts, (report ⟨some (String.join (entries.map LogEntry.line))⟩).Reports
      (entries.map LogEntry.asRead) counts := by
  let documents := entries.map fun entry => entry.asRead.toJson
  have isReport : report ⟨some (String.join (entries.map LogEntry.line))⟩ =
      .document 200 (statistics documents) := by
    rw [report, lines_join arePlain, readEntries_lines arePlain]
  have tallies := tallies_statistics documents
  have sameDocuments : documents = (entries.map LogEntry.asRead).map LogEntry.toJson := by
    rw [List.map_map]
    rfl
  have sameCount (path : Text) : documents.countP (fun document => pathOf document = path) =
      LogEntry.countOf path (entries.map LogEntry.asRead) := by
    rw [sameDocuments, LogEntry.countOf, List.countP_map]
    refine List.countP_congr fun entry _ => ?_
    simp [Function.comp, pathOf_toJson]
  rw [isReport]
  refine ⟨(countByPath documents).map fun (path, count) => (path, .int count), tallies.status, ?_,
    ?_, ?_⟩
  · rw [tallies.body, sameDocuments, List.length_map, List.map_drop]
  · have sameKeys : ((countByPath documents).map fun (path, count) => (path, Json.int count)).map
        Prod.fst = (countByPath documents).map Prod.fst := by
      rw [List.map_map]
      rfl
    rw [sameKeys]
    exact tallies.keys
  · intro path
    rw [get?_map_int, tallies.count, sameCount]
    split <;> rfl

end Journal

end TokenLens
