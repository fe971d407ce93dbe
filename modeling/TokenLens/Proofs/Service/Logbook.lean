import TokenLens.Proofs.Keyed
import TokenLens.Service.App

/-!
# One handler for a file

A file that is fresh gets one handler when the first app is created, and every app that is created
after it finds this handler there (`App.createEach_keeps`). So every entry is written to the file
once, whatever other files the process keeps logs in.
-/

namespace TokenLens

namespace Logbook

variable {name : Text} {text : String} {book : Logbook}

/-- A file that no handler of the process writes to, and that has no text. -/
structure IsFresh (book : Logbook) (name : Text) : Prop where
  noHandler : ∀ handler ∈ book.handlers, handler.file ≠ name
  noText : (book.content? name).getD "" = ""

/-- A file with a text, to which one handler of the process writes. -/
structure Keeps (book : Logbook) (name : Text) (text : String) : Prop where
  oneHandler : book.handlers.filter (·.file = name) = [⟨name, true⟩]
  content : book.content? name = some text

/-- The file to whose end a text was written. -/
theorem content?_append_self (added : String) :
    (book.append name added).content? name = some ((book.content? name).getD "" ++ added) :=
  Keyed.get?_insert_self _ _ _

/-- A file to whose end nothing was written. -/
theorem content?_append_of_ne {other : Text} (differs : name ≠ other) (added : String) :
    (book.append other added).content? name = book.content? name :=
  Keyed.get?_insert_of_ne differs _ _

/-- A fresh file gets its handler. -/
theorem IsFresh.keeps_attach (fresh : book.IsFresh name) : (book.attach name).Keeps name "" := by
  have noneYet : book.handlers.any (·.file = name) = false :=
    List.any_eq_false.2 fun handler isHandler => by simpa using fresh.noHandler handler isHandler
  have noOther : book.handlers.filter (·.file = name) = [] :=
    List.filter_eq_nil_iff.2 fun handler isHandler => by
      simpa using fresh.noHandler handler isHandler
  rw [attach, noneYet, if_neg (by simp)]
  constructor
  case oneHandler =>
    rw [List.concat_eq_append, List.filter_append, noOther]
    simp
  case content =>
    change (book.append name "").content? name = _
    rw [content?_append_self, fresh.noText]
    rfl

/-- A file that has a handler gets no other. -/
theorem Keeps.attach_eq (keeps : book.Keeps name text) : book.attach name = book := by
  have isThere : (⟨name, true⟩ : Handler) ∈ book.handlers.filter (·.file = name) := by
    rw [keeps.oneHandler]
    exact List.mem_singleton_self _
  have someHandler : book.handlers.any (·.file = name) = true :=
    List.any_eq_true.2 ⟨⟨name, true⟩, (List.mem_filter.1 isThere).1, by simp⟩
  rw [attach, if_pos someHandler]

/-- What handlers do with an entry. -/
def write (entry : LogEntry) (book : Logbook) (handlers : List Handler) : Logbook :=
  handlers.foldl
    (fun written handler =>
      if handler.inPlace then written.append handler.file entry.line else written)
    book

/-- Handlers that write change nothing but files. -/
theorem write_sameHandlers (entry : LogEntry) (book : Logbook) (handlers : List Handler) :
    (write entry book handlers).handlers = book.handlers ∧
      (write entry book handlers).directory = book.directory := by
  induction handlers generalizing book with
  | nil => exact ⟨rfl, rfl⟩
  | cons handler rest inductionHypothesis =>
      rw [write, List.foldl_cons, ← write]
      split
      · exact inductionHypothesis (book.append handler.file entry.line)
      · exact inductionHypothesis book

/-- Handlers of other files leave a file as it is. -/
theorem content?_write_others (entry : LogEntry) (book : Logbook) {handlers : List Handler}
    (others : ∀ handler ∈ handlers, handler.file ≠ name) :
    (write entry book handlers).content? name = book.content? name := by
  induction handlers generalizing book with
  | nil => rfl
  | cons handler rest inductionHypothesis =>
      obtain ⟨isOther, areOthers⟩ := List.forall_mem_cons.1 others
      rw [write, List.foldl_cons, ← write]
      split
      · rw [inductionHypothesis _ areOthers, content?_append_of_ne (Ne.symm isOther)]
      · exact inductionHypothesis book areOthers

/-- One handler of a file writes an entry to its end once. -/
theorem content?_write_one (entry : LogEntry) (book : Logbook) {handlers : List Handler}
    (oneHandler : handlers.filter (·.file = name) = [⟨name, true⟩]) :
    (write entry book handlers).content? name =
      some ((book.content? name).getD "" ++ entry.line) := by
  induction handlers generalizing book with
  | nil => cases oneHandler
  | cons handler rest inductionHypothesis =>
      rw [write, List.foldl_cons, ← write]
      by_cases isItsOwn : handler.file = name
      · rw [List.filter_cons_of_pos (by simpa using isItsOwn)] at oneHandler
        obtain ⟨rfl, noOther⟩ := List.cons.inj oneHandler
        have others : ∀ handler ∈ rest, handler.file ≠ name := fun handler isHandler => by
          simpa using List.filter_eq_nil_iff.1 noOther handler isHandler
        rw [if_pos rfl, content?_write_others entry _ others, content?_append_self]
      · rw [List.filter_cons_of_neg (by simpa using isItsOwn)] at oneHandler
        split
        · rw [inductionHypothesis _ oneHandler, content?_append_of_ne (Ne.symm isItsOwn)]
        · exact inductionHypothesis book oneHandler

/-- An entry that is recorded is written to the end of the file. -/
theorem Keeps.record (keeps : book.Keeps name text) (entry : LogEntry) :
    (book.record entry).Keeps name (text ++ entry.line) := by
  constructor
  case oneHandler =>
    change (write entry book book.handlers).handlers.filter (·.file = name) = _
    rw [(write_sameHandlers entry book book.handlers).1, keeps.oneHandler]
  case content =>
    change (write entry book book.handlers).content? name = _
    rw [content?_write_one entry book keeps.oneHandler, keeps.content]
    rfl

/-- To record an entry does not change where the process works. -/
theorem nameOf_record (entry : LogEntry) (book : Logbook) (path : Text) :
    (book.record entry).nameOf path = book.nameOf path := by
  change Path.absolute (write entry book book.handlers).directory path = _
  rw [(write_sameHandlers entry book book.handlers).2]
  rfl

/-- To attach a handler does not change where the process works. -/
theorem nameOf_attach (name : Text) (book : Logbook) (path : Text) :
    (book.attach name).nameOf path = book.nameOf path := by
  unfold attach
  split
  · rfl
  · rfl

end Logbook

namespace App

variable {path : Text} {book : Logbook}

/-- A path that may be one of a file is not empty. -/
theorem ne_nil_of_isFile (isFile : Path.endsInDirectory path = false) : path ≠ [] := by
  rintro rfl
  exact absurd isFile (by decide)

/-- Where the log can be a file, an app is created. -/
theorem create_eq (isFile : Path.endsInDirectory path = false) (settings : Settings)
    (book : Logbook) :
    create settings path book = .ok (⟨settings, path⟩, book.attach (book.nameOf path)) := by
  have someName : path.isEmpty = false := by simpa using ne_nil_of_isFile isFile
  rw [create, someName, isFile]
  rfl

/-- Apps that are created for a file that has its handler change nothing. -/
theorem createEach_of_keeps (isFile : Path.endsInDirectory path = false) {text : String}
    (keeps : book.Keeps (book.nameOf path) text) (first : Settings) (others : List Settings) :
    createEach path first others book =
      .ok (⟨(first :: others).getLast (by simp), path⟩, book) := by
  induction others generalizing first with
  | nil => rw [createEach, create_eq isFile, keeps.attach_eq]; rfl
  | cons second rest inductionHypothesis =>
      rw [createEach, create_eq isFile, keeps.attach_eq]
      exact inductionHypothesis second

/-- However many apps are created for a fresh file, the file gets one handler, and the last app is
left. -/
theorem createEach_keeps (isFile : Path.endsInDirectory path = false)
    (fresh : book.IsFresh (book.nameOf path)) (first : Settings) (others : List Settings) :
    ∃ opened, createEach path first others book =
        .ok (⟨(first :: others).getLast (by simp), path⟩, opened) ∧
      opened.nameOf path = book.nameOf path ∧ opened.Keeps (book.nameOf path) "" := by
  have keeps := fresh.keeps_attach
  have sameName := Logbook.nameOf_attach (book.nameOf path) book path
  refine ⟨book.attach (book.nameOf path), ?_, sameName, keeps⟩
  cases others with
  | nil => exact create_eq isFile first book
  | cons second rest =>
      have keepsThere : (book.attach (book.nameOf path)).Keeps
          ((book.attach (book.nameOf path)).nameOf path) "" := by
        rw [sameName]
        exact keeps
      rw [createEach, create_eq isFile]
      exact createEach_of_keeps isFile keepsThere second rest

end App

end TokenLens
