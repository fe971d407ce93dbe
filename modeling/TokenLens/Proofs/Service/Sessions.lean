import Mathlib.Data.List.ReduceOption
import TokenLens.Proofs.Node.Conversation
import TokenLens.Proofs.Service.Logbook
import TokenLens.Proofs.Service.Responses
import TokenLens.Proofs.Service.Statistics

/-!
# One line for each request

A session is the requests that an app serves one after the other, whatever nodes answer. Each
request for a path of classifications leaves one entry in the log (`ServedRequest.Leaves`), unless
its address cannot be told, and no other request leaves any. A session adds the lines of the entries
to the log, in order, and nothing else (`App.Serves.keeps`).
-/

namespace TokenLens

/-! ## What one request leaves -/

/-- A request whose address cannot be told: the query states none, and the body is nested too
deeply. -/
structure Request.HidesAddress (request : Request) : Prop where
  noneQueried : request.queryAddress = []
  isDocument : request.hasJson = true
  tooDeep : (Json.textOfBytes? request.content).map Json.read = some (.error .tooDeep)

/-- The body of a request breaks down only if it is nested too deeply. -/
theorem Request.document_eq_error_iff {request : Request} {cause : Breakdown} :
    request.document = .error cause ↔ cause = .tooDeep ∧ request.hasJson = true ∧
      (Json.textOfBytes? request.content).map Json.read = some (.error .tooDeep) := by
  unfold document
  cases request.hasJson with
  | false => simp
  | true =>
      rw [if_pos rfl]
      split
      next isRead => simp [isRead]
      next isDeep => simp [isDeep, eq_comm]
      next _ notDeep => exact ⟨nofun, fun ⟨_, _, isDeep⟩ => absurd isDeep notDeep⟩

/-- The address of a request cannot be told only if it is hidden. -/
theorem Request.statedAddress_eq_error_iff {request : Request} {cause : Breakdown} :
    request.statedAddress = .error cause ↔ cause = .tooDeep ∧ request.HidesAddress := by
  have ofBody : request.bodyAddress = .error cause ↔ request.document = .error cause := by
    unfold bodyAddress members
    cases request.document with
    | ok document => exact ⟨nofun, nofun⟩
    | error fault =>
        change (Except.error fault : Except Breakdown Text) = .error cause ↔ _
        rw [Except.error.injEq, Except.error.injEq]
  unfold statedAddress
  cases isQueried : request.queryAddress with
  | nil =>
      rw [List.isEmpty_nil, if_pos rfl, ofBody, document_eq_error_iff]
      constructor
      · rintro ⟨isDeep, isDocument, tooDeep⟩
        exact ⟨isDeep, isQueried, isDocument, tooDeep⟩
      · rintro ⟨isDeep, hides⟩
        exact ⟨isDeep, hides.isDocument, hides.tooDeep⟩
  | cons point rest =>
      rw [List.isEmpty_cons, if_neg (by simp)]
      constructor
      · exact nofun
      · rintro ⟨-, hides⟩
        exact absurd (isQueried.symm.trans hides.noneQueried) (by simp)

/-- The status of a response stays when it is sent. -/
theorem Service.status_delivered (request : Request) (response : Response) :
    (delivered request response).status = response.status := by
  unfold delivered
  split
  · rfl
  · rfl

/-- A request that was served: when it came, and the response that was sent. -/
structure ServedRequest where
  stamp : Stamp
  request : Request
  sent : Response

namespace ServedRequest

/-- What a request leaves in the log of an app with the given settings. -/
inductive Leaves (settings : Settings) (served : ServedRequest) : Option LogEntry → Prop
  | entry {journal : Option Journal} {readings : List Reading} {response : Response}
      {address : Text}
      (isLogged : Service.isLogged served.request = true)
      (isStated : served.request.statedAddress = .ok address)
      (isAnswer : (Service.answer settings journal served.request).TakesPlace readings response)
      (isSent : served.sent = Service.delivered served.request response) :
      Leaves settings served (some ⟨served.stamp, served.request.path, address, response.status,
        served.request.verb, LogEntry.standardOf response⟩)
  | hidden (isLogged : Service.isLogged served.request = true)
      (hides : served.request.HidesAddress) (fails : served.sent.status = 500) :
      Leaves settings served none
  | other (notLogged : Service.isLogged served.request = false) : Leaves settings served none

/-- The entry of a request can be read back. -/
theorem Leaves.isPlain {settings : Settings} {served : ServedRequest} {entry : LogEntry}
    (leaves : served.Leaves settings (some entry)) : entry.IsPlain := by
  have labels : ∀ standard ∈ Registry.bundled.standards,
      Text.joinHalves standard.label = standard.label := by decide +kernel
  cases leaves with
  | entry _ _ isAnswer _ =>
      obtain ⟨small, named⟩ := Service.isUsual_answer isAnswer
      refine ⟨Nat.lt_of_lt_of_le small ?_, fun standard isStandard => ?_⟩
      · calc 600 ≤ 10 ^ 3 := by decide
          _ ≤ 10 ^ Numeral.maxDigits := Nat.pow_le_pow_right (by decide) (by decide)
      · rcases named standard isStandard with rfl | ⟨known, isKnown, rfl⟩
        · exact ⟨.null, rfl⟩
        · exact ⟨.text _, by rw [Json.joined_str, labels known isKnown]⟩

/-- The entries that requests leave can be read back. -/
theorem isPlain_of_leaves {settings : Settings} {served : List ServedRequest}
    {left : List (Option LogEntry)} (areLeft : List.Forall₂ (Leaves settings) served left) :
    ∀ entry ∈ left.reduceOption, entry.IsPlain := by
  induction areLeft with
  | nil => simp
  | @cons _ left? _ _ leaves _ inductionHypothesis =>
      cases left? with
      | none => exact inductionHypothesis
      | some entry =>
          rw [List.reduceOption_cons_of_some]
          exact List.forall_mem_cons.2 ⟨leaves.isPlain, inductionHypothesis⟩

end ServedRequest

/-! ## What a session leaves -/

namespace App

variable {app : App} {book after : Logbook} {path : Text} {text : String}

/-- To serve a request is to answer it and to keep what is to be kept. -/
theorem takesPlace_serve_iff {stamp : Stamp} {request : Request} {readings : List Reading}
    {result : Response × Logbook} :
    (app.serve book stamp request).TakesPlace readings result ↔ ∃ response,
      (Service.answer app.settings (app.journal? book) request).TakesPlace readings response ∧
      result = (Service.delivered request (Service.kept stamp request response).1,
        (Service.kept stamp request response).2.elim book book.record) := by
  unfold serve
  rw [Dialogue.takesPlace_bind_iff]
  constructor
  · rintro ⟨earlier, later, response, rfl, isAnswer, rest⟩
    obtain ⟨rfl, isResult⟩ := Dialogue.takesPlace_pure_iff.1 rest
    exact ⟨response, by rwa [List.append_nil], isResult⟩
  · rintro ⟨response, isAnswer, isResult⟩
    refine ⟨readings, [], response, by simp, isAnswer, ?_⟩
    exact Dialogue.takesPlace_pure_iff.2 ⟨rfl, isResult⟩

/-- What is kept of a request is what it leaves. -/
theorem leaves_kept {settings : Settings} {journal : Option Journal} {stamp : Stamp}
    {request : Request} {readings : List Reading} {response : Response}
    (isAnswer : (Service.answer settings journal request).TakesPlace readings response) :
    ServedRequest.Leaves settings
      ⟨stamp, request, Service.delivered request (Service.kept stamp request response).1⟩
      (Service.kept stamp request response).2 := by
  rw [Service.kept]
  cases isLogged : Service.isLogged request with
  | false => exact .other isLogged
  | true =>
      rw [if_pos rfl, LogEntry.of]
      cases isStated : request.statedAddress with
      | ok address => exact .entry isLogged isStated isAnswer rfl
      | error cause =>
          have hides := (Request.statedAddress_eq_error_iff.1 isStated).2
          exact .hidden isLogged hides (Service.status_delivered request (.page 500))

/-- A request that is served leaves at most one entry, and this is recorded. -/
theorem exists_leaves {stamp : Stamp} {request : Request} {readings : List Reading}
    {sent : Response}
    (conversation : (app.serve book stamp request).TakesPlace readings (sent, after)) :
    ∃ left, ServedRequest.Leaves app.settings ⟨stamp, request, sent⟩ left ∧
      after = left.elim book book.record := by
  obtain ⟨response, isAnswer, isResult⟩ := takesPlace_serve_iff.1 conversation
  obtain ⟨rfl, rfl⟩ := Prod.mk.inj isResult
  exact ⟨_, leaves_kept isAnswer, rfl⟩

/-- An app serves requests one after the other, whatever nodes answer, and leaves a logbook. -/
inductive Serves (app : App) : Logbook → List ServedRequest → Logbook → Prop
  | nothing (book : Logbook) : Serves app book [] book
  | next {book middle after : Logbook} {served : ServedRequest} {rest : List ServedRequest}
      {readings : List Reading}
      (conversation : (app.serve book served.stamp served.request).TakesPlace readings
        (served.sent, middle))
      (onwards : Serves app middle rest after) : Serves app book (served :: rest) after

/-- Every request is served. -/
theorem exists_serves (app : App) (book : Logbook) (requests : List (Stamp × Request)) :
    ∃ served after, app.Serves book served after ∧
      served.map (fun served => (served.stamp, served.request)) = requests := by
  induction requests generalizing book with
  | nil => exact ⟨[], book, .nothing book, rfl⟩
  | cons next rest inductionHypothesis =>
      obtain ⟨stamp, request⟩ := next
      -- Any node will do, such as one whose every reply is null.
      have conversation := Dialogue.takesPlace_converse (fun _ _ => .ok .null) []
        (app.serve book stamp request)
      obtain ⟨served, after, onwards, areRest⟩ := inductionHypothesis
        ((app.serve book stamp request).converse (fun _ _ => .ok .null) []).2.2
      refine ⟨⟨stamp, request, _⟩ :: served, after, .next conversation onwards, ?_⟩
      rw [List.map_cons, areRest]

/-- A session adds a line for each entry that its requests leave, in order, and nothing else. -/
theorem Serves.keeps {served : List ServedRequest} (serves : app.Serves book served after)
    (keeps : book.Keeps (book.nameOf path) text) :
    ∃ left, List.Forall₂ (ServedRequest.Leaves app.settings) served left ∧
      after.nameOf path = book.nameOf path ∧
      after.Keeps (book.nameOf path)
        (text ++ String.join (left.reduceOption.map LogEntry.line)) := by
  induction serves generalizing text with
  | nothing book => exact ⟨[], .nil, rfl, by simpa using keeps⟩
  | @next book middle after served rest readings conversation onwards inductionHypothesis =>
      obtain ⟨left, leaves, rfl⟩ := exists_leaves conversation
      cases left with
      | none =>
          obtain ⟨others, areOthers, sameName, keepsAfter⟩ := inductionHypothesis keeps
          exact ⟨none :: others, .cons leaves areOthers, sameName, keepsAfter⟩
      | some entry =>
          have sameMiddle := Logbook.nameOf_record entry book path
          have keepsMiddle : (book.record entry).Keeps ((book.record entry).nameOf path)
              (text ++ entry.line) := by
            rw [sameMiddle]
            exact keeps.record entry
          obtain ⟨others, areOthers, sameName, keepsAfter⟩ := inductionHypothesis keepsMiddle
          refine ⟨some entry :: others, .cons leaves areOthers, sameName.trans sameMiddle, ?_⟩
          rw [List.reduceOption_cons_of_some, List.map_cons, String.join_cons,
            ← String.append_assoc]
          exact sameMiddle ▸ keepsAfter

end App

end TokenLens
