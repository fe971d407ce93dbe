import TokenLens.Proofs.Node.Lookup
import TokenLens.Proofs.Outcome

/-!
# Proper nodes

A node may answer each query as it likes, and differently every time: its replies are a function of
all that was read before. It is proper if the error members of its replies are objects and if what
it states to be code spells code. A proper node may still fail every request; the one way left in
which a lookup breaks down on it is a reply that is nested too deeply to be read.
-/

namespace TokenLens

namespace PostOutcome

variable {cause : Breakdown}

/-- An error member breaks a reading down only if it is no object. -/
theorem cause_of_remoteFault {stated : Json} (broken : remoteFault stated = .broken cause) :
    cause = .malformedErrorMember := by
  unfold remoteFault at broken
  split at broken
  · cases broken
  · exact (ReadFault.broken.inj broken).symm

/-- The members of a reply break a reading down only through the error member. -/
theorem cause_of_memberResult {members : List (Text × Json)}
    (broken : memberResult members = .error (.broken cause)) : cause = .malformedErrorMember := by
  unfold memberResult at broken
  split at broken
  · exact cause_of_remoteFault (Except.error.inj broken)
  · split at broken
    · cases broken
    · cases broken
    · cases broken

/-- Reading a reply breaks down for one of two reasons. -/
theorem cause_of_result {outcome : PostOutcome}
    (broken : outcome.result = .error (.broken cause)) :
    cause = .tooDeep ∨ cause = .malformedErrorMember := by
  cases outcome with
  | failed => cases broken
  | answered status body =>
      simp only [result] at broken
      split at broken
      · cases broken
      · unfold bodyResult at broken
        split at broken
        · exact .inl (ReadFault.broken.inj (Except.error.inj broken)).symm
        · cases broken
        · exact .inr (cause_of_memberResult broken)
        · cases broken

end PostOutcome

/-- Nodes whose error members are objects and whose code spells code, whatever was read before. -/
structure IsProper (node : List Reading → Query → PostOutcome) : Prop where
  errorMembers : ∀ past query, (node past query).result ≠ .error (.broken .malformedErrorMember)
  spelled : ∀ past query document, query.read.isCode = true →
    (node past query).result = .ok document → ∃ code, Code.ofJson document = .ok code

/-- Readings that a proper node may give rise to. -/
structure AreProper (readings : List Reading) : Prop where
  breakdowns : ∀ reading ∈ readings, ∀ cause,
    reading.answer = .error (.broken cause) → cause = .tooDeep
  spelled : ∀ reading ∈ readings, reading.isCode = true →
    ∀ document, reading.answer = .ok document → ∃ code, Code.ofJson document = .ok code

/-- What a proper node answers. -/
theorem IsProper.areProper {node : List Reading → Query → PostOutcome} (proper : IsProper node)
    {readings : List Reading}
    (answered : ∀ reading ∈ readings, ∃ past, reading.answer = (node past reading.query).result) :
    AreProper readings where
  breakdowns := by
    intro reading isRead cause broken
    obtain ⟨past, isAnswer⟩ := answered reading isRead
    rw [isAnswer] at broken
    rcases PostOutcome.cause_of_result broken with tooDeep | rfl
    · exact tooDeep
    · exact absurd broken (proper.errorMembers past reading.query)
  spelled := by
    intro reading isRead isCode document stated
    obtain ⟨past, isAnswer⟩ := answered reading isRead
    exact proper.spelled past reading.query document isCode (isAnswer.symm.trans stated)

/-- A reply with the code of a contract that delegates to one fixed address. -/
def delegatingReply : PostOutcome :=
  .answered 200 "\x7b\"result\":\"0x730101010101010101010101010101010101010101f4\"\x7d"

/-- The text that a result is. -/
def resultText? : Except ReadFault Json → Option Text
  | .ok (.str text) => some text
  | .ok _ => none
  | .error _ => none

/-- A result is the text that it is. -/
theorem eq_of_resultText? {result : Except ReadFault Json} {text : Text}
    (isText : resultText? result = some text) : result = .ok (.str text) := by
  unfold resultText? at isText
  split at isText
  next => rw [Option.some.inj isText]
  next => cases isText
  next => cases isText

/-- The code that the reply states. -/
def delegatingText : Text :=
  "0x730101010101010101010101010101010101010101f4"

/-- The result that the reply states. -/
theorem result_delegatingReply : delegatingReply.result = .ok (.str delegatingText) := by
  refine eq_of_resultText? ?_
  decide +kernel

/-- A node is proper if it either states the code of that contract or fails. -/
theorem isProper_of_delegating {node : List Reading → Query → PostOutcome}
    (replies : ∀ past query, node past query = delegatingReply ∨ node past query = .failed) :
    IsProper node where
  errorMembers := by
    intro past query broken
    rcases replies past query with isReply | isReply
    · rw [isReply, result_delegatingReply] at broken
      cases broken
    · rw [isReply] at broken
      cases broken
  spelled := by
    intro past query document _ stated
    rcases replies past query with isReply | isReply
    · rw [isReply, result_delegatingReply] at stated
      obtain rfl := Except.ok.inj stated
      exact ⟨⟨115 :: (List.replicate 20 1 ++ [244])⟩, eq_ok_of_toOption (by decide +kernel)⟩
    · rw [isReply] at stated
      cases stated

end TokenLens
