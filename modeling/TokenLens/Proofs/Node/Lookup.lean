import TokenLens.Proofs.Node.Conversation

/-!
# Conversations of lookups

A lookup is a dialogue that may fail. Each lemma says which readings one kind of lookup leaves and
in which outcome it ends, so that a longer lookup is taken apart at its binds and never unfolded.
-/

namespace TokenLens

/-- Whether a read asks for the code of a contract. -/
def NodeRead.isCode : NodeRead → Bool
  | .code _ => true
  | .storage _ _ => false
  | .call _ _ => false

/-- Whether a reading asked for the code of a contract. -/
def Reading.isCode (reading : Reading) : Bool :=
  reading.query.read.isCode

/-- The readings of a conversation that asked for code, in order. -/
def codeReadings (readings : List Reading) : List Reading :=
  readings.filter Reading.isCode

/-- Code that was read in two parts of a conversation. -/
@[simp]
theorem codeReadings_append (earlier later : List Reading) :
    codeReadings (earlier ++ later) = codeReadings earlier ++ codeReadings later :=
  List.filter_append ..

/-- Where no reading asked for code there are no code readings. -/
theorem codeReadings_eq_nil {readings : List Reading}
    (others : ∀ reading ∈ readings, reading.isCode = false) : codeReadings readings = [] := by
  refine List.filter_eq_nil_iff.2 fun reading isRead => ?_
  simp [others reading isRead]

namespace Lookup

variable {α β : Type}

/-- A lookup takes place with the given readings and ends in an outcome. -/
def TakesPlace (lookup : Lookup α) (readings : List Reading) (outcome : Except LookupError α) :
    Prop :=
  Dialogue.TakesPlace lookup readings outcome

variable {readings : List Reading}

/-- A lookup that reads nothing. -/
@[simp]
theorem takesPlace_pure_iff {value : α} {outcome : Except LookupError α} :
    TakesPlace (pure value) readings outcome ↔ readings = [] ∧ outcome = .ok value := by
  constructor
  · intro conversation
    cases conversation
    exact ⟨rfl, rfl⟩
  · rintro ⟨rfl, rfl⟩
    exact .done _

/-- A lookup that fails at once. -/
@[simp]
theorem takesPlace_throw_iff {error : LookupError} {outcome : Except LookupError α} :
    TakesPlace (throw error) readings outcome ↔ readings = [] ∧ outcome = .error error := by
  constructor
  · intro conversation
    cases conversation
    exact ⟨rfl, rfl⟩
  · rintro ⟨rfl, rfl⟩
    exact .done _

/-- A lookup that goes on either fails in its first part or takes place in two parts. -/
theorem takesPlace_bind_iff {lookup : Lookup α} {continuation : α → Lookup β}
    {outcome : Except LookupError β} :
    TakesPlace (lookup >>= continuation) readings outcome ↔
      (∃ error, outcome = .error error ∧ lookup.TakesPlace readings (.error error)) ∨
      ∃ earlier later value, readings = earlier ++ later ∧
        lookup.TakesPlace earlier (.ok value) ∧
        (continuation value).TakesPlace later outcome := by
  constructor
  · intro conversation
    obtain ⟨earlier, later, result, rfl, first, second⟩ :=
      Dialogue.takesPlace_bind_iff.1 conversation
    cases result with
    | ok value => exact .inr ⟨earlier, later, value, rfl, first, second⟩
    | error error =>
        cases second
        exact .inl ⟨error, rfl, by rwa [List.append_nil]⟩
  · rintro (⟨error, rfl, first⟩ | ⟨earlier, later, value, rfl, first, second⟩)
    · exact Dialogue.takesPlace_bind_iff.2
        ⟨readings, [], .error error, by simp, first, .done _⟩
    · exact Dialogue.takesPlace_bind_iff.2 ⟨earlier, later, .ok value, rfl, first, second⟩

/-- A lookup that goes on ends in a value only if both of its parts do. -/
theorem takesPlace_bind_ok_iff {lookup : Lookup α} {continuation : α → Lookup β} {result : β} :
    TakesPlace (lookup >>= continuation) readings (.ok result) ↔
      ∃ earlier later value, readings = earlier ++ later ∧
        lookup.TakesPlace earlier (.ok value) ∧
        (continuation value).TakesPlace later (.ok result) := by
  rw [takesPlace_bind_iff]
  constructor
  · rintro (⟨_, isError, -⟩ | parts)
    · cases isError
    · exact parts
  · exact .inr

/-- A dialogue that is taken for a lookup never fails. -/
@[simp]
theorem takesPlace_liftM_iff {dialogue : Dialogue α} {outcome : Except LookupError α} :
    TakesPlace (liftM dialogue) readings outcome ↔
      ∃ value, outcome = .ok value ∧ dialogue.TakesPlace readings value := by
  constructor
  · intro conversation
    obtain ⟨earlier, later, value, rfl, first, second⟩ :=
      Dialogue.takesPlace_bind_iff.1 conversation
    cases second
    exact ⟨value, rfl, by rwa [List.append_nil]⟩
  · rintro ⟨value, rfl, conversation⟩
    exact Dialogue.takesPlace_bind_iff.2 ⟨readings, [], value, by simp, conversation, .done _⟩

/-- A dialogue that a lookup starts with takes place before the rest. -/
theorem takesPlace_liftM_bind_iff {dialogue : Dialogue α} {continuation : α → Lookup β}
    {outcome : Except LookupError β} :
    TakesPlace ((liftM dialogue : Lookup α) >>= continuation) readings outcome ↔
      ∃ earlier later value, readings = earlier ++ later ∧ dialogue.TakesPlace earlier value ∧
        (continuation value).TakesPlace later outcome := by
  simp only [takesPlace_bind_iff, takesPlace_liftM_iff]
  constructor
  · rintro (⟨error, -, value, isError, -⟩ | ⟨earlier, later, _, rfl, ⟨value, isValue, first⟩, rest⟩)
    · cases isError
    · cases isValue
      exact ⟨earlier, later, _, rfl, first, rest⟩
  · rintro ⟨earlier, later, value, rfl, first, rest⟩
    exact .inr ⟨earlier, later, value, rfl, ⟨value, rfl, first⟩, rest⟩

/-- A note does not change what a lookup goes on with. -/
@[simp]
theorem takesPlace_takeNote_bind_iff {noted : Note} {continuation : Unit → Lookup β}
    {outcome : Except LookupError β} :
    TakesPlace (takeNote noted >>= continuation) readings outcome ↔
      (continuation ()).TakesPlace readings outcome := by
  constructor
  · intro conversation
    cases conversation with
    | note rest => exact rest
  · intro rest
    exact .note rest

/-- A note that a lookup ends with. -/
theorem takesPlace_takeNote_pure_iff {noted : Note} {value : β} {outcome : Except LookupError β} :
    TakesPlace (takeNote noted >>= fun _ => pure value) readings outcome ↔
      readings = [] ∧ outcome = .ok value := by
  rw [takesPlace_takeNote_bind_iff, takesPlace_pure_iff]

/-- What a try makes of an answer: a breakdown ends the lookup, every other failure is handed on. -/
def ofAnswer : Except ReadFault Json → Except LookupError (Except RpcError Json)
  | .ok document => .ok (.ok document)
  | .error (.rpc error) => .ok (.error error)
  | .error (.broken cause) => .error (.broken cause)

/-- A try leaves one reading. -/
@[simp]
theorem takesPlace_tryRead_iff {query : Query}
    {outcome : Except LookupError (Except RpcError Json)} :
    (tryRead query).TakesPlace readings outcome ↔
      ∃ answer, readings = [⟨query, answer⟩] ∧ outcome = ofAnswer answer := by
  unfold tryRead
  rw [takesPlace_liftM_bind_iff]
  constructor
  · rintro ⟨_, later, answer, rfl, asked, rest⟩
    cases asked with
    | ask done =>
        cases done
        refine ⟨answer, ?_⟩
        match answer, rest with
        | .ok document, rest => simpa [ofAnswer] using rest
        | .error (.rpc error), rest => simpa [ofAnswer] using rest
        | .error (.broken cause), rest => simpa [ofAnswer] using rest
  · rintro ⟨answer, rfl, rfl⟩
    refine ⟨[⟨query, answer⟩], [], answer, rfl, .ask (.done answer), ?_⟩
    match answer with
    | .ok document => simp [ofAnswer]
    | .error (.rpc error) => simp [ofAnswer]
    | .error (.broken cause) => simp [ofAnswer]

/-- To spell out code is to read nothing. -/
@[simp]
theorem takesPlace_codeOf_iff {document : Json} {outcome : Except LookupError Code} :
    (codeOf document).TakesPlace readings outcome ↔
      readings = [] ∧ outcome = (Code.ofJson document).mapError .code := by
  unfold codeOf
  cases Code.ofJson document with
  | ok code => exact takesPlace_pure_iff
  | error fault => exact takesPlace_throw_iff

end Lookup

end TokenLens
