/-!
# Outcomes that were computed

Whether a computation ends in a value can be decided even where its failures cannot be compared, and
whether it ends in a failure even where its values cannot. A computation in several steps ends in a
value only if each of its steps does.
-/

namespace TokenLens

variable {ε ε' α β : Type} {outcome : Except ε α}

/-- A computation whose value was computed ends in it. -/
theorem eq_ok_of_toOption {value : α} (computed : outcome.toOption = some value) :
    outcome = .ok value := by
  cases outcome with
  | ok found => exact congrArg Except.ok (Option.some.inj computed)
  | error fault => cases computed

/-- The failure that a computation ends in, if it does. -/
def failure? : Except ε α → Option ε
  | .ok _ => none
  | .error fault => some fault

/-- A computation whose failure was computed ends in it. -/
theorem eq_error_of_failure? {fault : ε} (computed : failure? outcome = some fault) :
    outcome = .error fault := by
  cases outcome with
  | ok found => cases computed
  | error found => exact congrArg Except.error (Option.some.inj computed)

/-- A computation that ends in a value has a value after its first step. -/
theorem exists_of_bind_eq_ok {next : α → Except ε β} {value : β}
    (computed : outcome >>= next = .ok value) :
    ∃ found, outcome = .ok found ∧ next found = .ok value := by
  cases outcome with
  | ok found => exact ⟨found, rfl, computed⟩
  | error fault => cases computed

/-- Another account of its failures leaves a computation its value. -/
theorem eq_ok_of_mapError_eq_ok {retell : ε → ε'} {value : α}
    (computed : outcome.mapError retell = .ok value) : outcome = .ok value := by
  cases outcome with
  | ok found => exact congrArg Except.ok (Except.ok.inj computed)
  | error fault => cases computed

end TokenLens
