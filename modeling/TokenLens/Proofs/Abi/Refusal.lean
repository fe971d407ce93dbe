import TokenLens.Proofs.Abi.Acceptance

/-!
# The first fault of an ABI

The entries of an ABI are read in order, and the first one that is faulty decides what becomes of
all of them (`Declaration.ofEntries_eq_error_iff`). So an ABI is refused, it breaks the reading
down, or it is accepted, and which of the three can be told from its entries alone
(`Abi.concludes_selectors`).
-/

namespace TokenLens

namespace Declaration

open ParamType (maxDepth listDepth)

variable {entry other : Json} {entries : List Json} {fault : EntryError}

/-- An entry that declares something without a name or without well-formed inputs. -/
def IsMalformed (entry : Json) : Prop :=
  ∃ kind, IsOfKind kind entry ∧ ∀ levels, ¬ IsWellFormed levels entry

/-- An entry that is well-formed and yet cannot be read: its tuples stand too deep inside each
other, or its signature has no bytes. -/
inductive BreaksDown (entry : Json) : Prop where
  | tooDeep {kind : DeclarationKind} (isOfKind : IsOfKind kind entry)
      (wellFormed : ∃ levels, IsWellFormed levels entry) (deep : ¬ IsWellFormed maxDepth entry)
  | unencodable {kind : DeclarationKind} {signature : Signature} (isOfKind : IsOfKind kind entry)
      (has : HasSignature entry signature) (unencodable : signature.isEncodable = false)

/-- An entry without a fault. -/
structure IsSound (entry : Json) : Prop where
  notMalformed : ¬ IsMalformed entry
  notBroken : ¬ BreaksDown entry

/-- No entry that breaks the reading down is malformed. -/
theorem BreaksDown.not_isMalformed (breaks : BreaksDown entry) : ¬ IsMalformed entry := by
  rintro ⟨kind, -, malformed⟩
  cases breaks with
  | tooDeep _ wellFormed =>
      obtain ⟨levels, wellFormed⟩ := wellFormed
      exact malformed levels wellFormed
  | unencodable _ has => exact malformed _ (isWellFormed_iff.2 ⟨_, has, Nat.le_refl _⟩)

/-- What becomes of an entry, by its fault. -/
inductive Fares (entry : Json) : Except EntryError (Option Declaration) → Prop where
  | sound {declaration? : Option Declaration} (sound : IsSound entry) :
      Fares entry (.ok declaration?)
  | refused {fault : EntryError} (malformed : IsMalformed entry)
      (unbroken : ∀ cause, fault ≠ .broken cause) : Fares entry (.error fault)
  | broken {cause : Breakdown} (breaks : BreaksDown entry) : Fares entry (.error (.broken cause))

/-- An entry fares as `Fares` lists. -/
theorem fares_ofEntry (entry : Json) : Fares entry (ofEntry entry) := by
  have becomes := becomes_ofEntry entry
  generalize ofEntry entry = outcome at becomes ⊢
  cases becomes with
  | passedOver undeclared =>
      refine .sound ⟨fun ⟨kind, isOfKind, _⟩ => undeclared kind isOfKind, ?_⟩
      rintro (⟨isOfKind, -, -⟩ | ⟨isOfKind, -, -⟩)
      · exact undeclared _ isOfKind
      · exact undeclared _ isOfKind
  | declared _ has shallow encodable =>
      have wellFormed : IsWellFormed maxDepth entry := isWellFormed_iff.2 ⟨_, has, shallow⟩
      refine .sound ⟨fun ⟨_, _, malformed⟩ => malformed _ wellFormed, ?_⟩
      rintro (⟨-, -, deep⟩ | ⟨-, hasToo, unencodable⟩)
      · exact deep wellFormed
      · rw [hasToo.unique has, encodable] at unencodable
        cases unencodable
  | malformed isOfKind malformed unbroken => exact .refused ⟨_, isOfKind, malformed⟩ unbroken
  | tooDeep isOfKind wellFormed deep => exact .broken (.tooDeep isOfKind wellFormed deep)
  | unencodable isOfKind has _ unencodable => exact .broken (.unencodable isOfKind has unencodable)

/-- Sound entries are those that are read. -/
theorem isSound_iff : IsSound entry ↔ ∃ declaration?, ofEntry entry = .ok declaration? := by
  have fares := fares_ofEntry entry
  generalize ofEntry entry = outcome at fares
  cases fares with
  | @sound declaration? sound => exact iff_of_true sound ⟨declaration?, rfl⟩
  | refused malformed => exact iff_of_false (fun sound => sound.notMalformed malformed) (by simp)
  | broken breaks => exact iff_of_false (fun sound => sound.notBroken breaks) (by simp)

/-- The first faulty entry of a list. -/
def IsFirstFault (entries : List Json) (entry : Json) : Prop :=
  ∃ before after, entries = before ++ entry :: after ∧ (∀ earlier ∈ before, IsSound earlier) ∧
    ¬ IsSound entry

/-- There is one first faulty entry at most. -/
theorem IsFirstFault.unique (first : IsFirstFault entries entry)
    (firstToo : IsFirstFault entries other) : entry = other := by
  classical
  have isFound {entry : Json} (first : IsFirstFault entries entry) :
      entries.find? (fun entry => ¬ IsSound entry) = some entry := by
    obtain ⟨before, after, split, sound, faulty⟩ := first
    refine List.find?_eq_some_iff_append.2 ⟨by simpa using faulty, before, after, split, ?_⟩
    exact fun earlier isBefore => by simpa using sound earlier isBefore
  exact Option.some.inj ((isFound first).symm.trans (isFound firstToo))

/-- Entries fail by the first of them that is faulty. -/
theorem ofEntries_eq_error_iff : ofEntries entries = .error fault ↔
    ∃ entry, IsFirstFault entries entry ∧ ofEntry entry = .error fault := by
  induction entries with
  | nil => simp [ofEntries, IsFirstFault]
  | cons first others inductionHypothesis =>
      simp only [ofEntries, IsFirstFault, List.cons_eq_append_iff]
      cases isRead : ofEntry first with
      | error firstFault =>
          have faulty : ¬ IsSound first := by simp [isSound_iff, isRead]
          constructor
          · intro isFault
            obtain rfl := Except.error.inj isFault
            exact ⟨first, ⟨[], others, .inl ⟨rfl, rfl⟩, List.forall_mem_nil _, faulty⟩, isRead⟩
          · rintro ⟨entry, ⟨before, after, ⟨rfl, split⟩ | ⟨tail, rfl, -⟩, sound, -⟩, failed⟩
            · obtain ⟨rfl, -⟩ := List.cons.inj split
              obtain rfl := Except.error.inj (isRead.symm.trans failed)
              rfl
            · exact absurd (sound first List.mem_cons_self) faulty
      | ok declaration? =>
          have sound : IsSound first := isSound_iff.2 ⟨_, isRead⟩
          have goesOn : (do
              let declarations ← ofEntries others
              return declaration?.toList ++ declarations : Except EntryError _) = .error fault ↔
                ofEntries others = .error fault := by
            cases ofEntries others with
            | ok declarations =>
                refine iff_of_false (fun failed => ?_) fun failed => ?_
                · cases failed
                · cases failed
            | error laterFault => exact Iff.rfl
          refine goesOn.trans (inductionHypothesis.trans ?_)
          constructor
          · rintro ⟨entry, ⟨before, after, split, areSound, faulty⟩, failed⟩
            exact ⟨entry, ⟨first :: before, after, .inr ⟨before, rfl, split⟩,
              List.forall_mem_cons.2 ⟨sound, areSound⟩, faulty⟩, failed⟩
          · rintro ⟨entry, ⟨before, after, ⟨rfl, split⟩ | ⟨tail, rfl, split⟩, areSound, faulty⟩,
              failed⟩
            · obtain ⟨rfl, -⟩ := List.cons.inj split
              exact absurd sound faulty
            · exact ⟨entry, ⟨tail, after, split, (List.forall_mem_cons.1 areSound).2, faulty⟩,
                failed⟩

end Declaration

namespace Abi

open Declaration (IsSound IsFirstFault)

variable {abi : Json} {entries : List Json}

/-- An ABI that is accepted: it lists entries, and all of them are sound. -/
def IsAccepted (abi : Json) : Prop :=
  ∃ entries, Lists abi entries ∧ ∀ entry ∈ entries, IsSound entry

/-- An ABI that is refused: it lists no entries, or the first entry that is faulty is malformed. -/
inductive IsRefused (abi : Json) : Prop where
  | noList (noList : ∀ entries, ¬ Lists abi entries) (shallow : ¬ IsTooDeepText abi)
  | entry {entries : List Json} {entry : Json} (lists : Lists abi entries)
      (first : IsFirstFault entries entry) (malformed : Declaration.IsMalformed entry)

/-- An ABI that breaks the reading down: it is a text that is nested too deeply, or the first entry
that is faulty breaks the reading down. -/
inductive BreaksDown (abi : Json) : Prop where
  | text (deep : IsTooDeepText abi)
  | entry {entries : List Json} {entry : Json} (lists : Lists abi entries)
      (first : IsFirstFault entries entry) (breaks : Declaration.BreaksDown entry)

/-- An ABI that is accepted is not refused. -/
theorem IsAccepted.not_isRefused (accepted : IsAccepted abi) : ¬ IsRefused abi := by
  obtain ⟨entries, lists, sound⟩ := accepted
  rintro (⟨noList, -⟩ | ⟨listsToo, ⟨before, after, rfl, -, faulty⟩, -⟩)
  · exact noList entries lists
  · rw [lists.unique listsToo] at sound
    exact faulty (sound _ (by simp))

/-- An ABI that is accepted does not break the reading down. -/
theorem IsAccepted.not_breaksDown (accepted : IsAccepted abi) : ¬ BreaksDown abi := by
  obtain ⟨entries, lists, sound⟩ := accepted
  rintro (deep | ⟨listsToo, ⟨before, after, rfl, -, faulty⟩, -⟩)
  · exact lists.not_isTooDeepText deep
  · rw [lists.unique listsToo] at sound
    exact faulty (sound _ (by simp))

/-- An ABI that breaks the reading down is not refused. -/
theorem BreaksDown.not_isRefused (breaks : BreaksDown abi) : ¬ IsRefused abi := by
  rintro (⟨noList, shallow⟩ | ⟨lists, first, malformed⟩)
  · cases breaks with
    | text deep => exact shallow deep
    | entry lists => exact noList _ lists
  · cases breaks with
    | text deep => exact lists.not_isTooDeepText deep
    | entry listsToo firstToo breaks =>
        obtain rfl := lists.unique listsToo
        obtain rfl := first.unique firstToo
        exact breaks.not_isMalformed malformed

/-- How the search for the selectors of an ABI ends, by the first fault of the ABI. -/
inductive Concludes (abi : Json) : Except AbiError SelectorSet → Prop where
  | accepted {set : SelectorSet} (accepted : IsAccepted abi) : Concludes abi (.ok set)
  | refused {fault : AbiError} (refused : IsRefused abi) (unbroken : fault.breakdown? = none) :
      Concludes abi (.error fault)
  | broken {fault : AbiError} {cause : Breakdown} (breaks : BreaksDown abi)
      (isBroken : fault.breakdown? = some cause) : Concludes abi (.error fault)

/-- The search for the selectors of an ABI concludes as its first fault says. -/
theorem concludes_selectors (abi : Json) : Concludes abi (selectors abi) := by
  have areListed := areListed_entries abi
  unfold selectors declarations
  generalize Abi.entries abi = outcome at areListed ⊢
  cases areListed with
  | noList noList shallow unbroken => exact .refused (.noList noList shallow) unbroken
  | tooDeep deep => exact .broken (.text deep) rfl
  | @listed entries lists =>
      change Concludes abi (((Declaration.ofEntries entries).mapError AbiError.entry).map _)
      cases read : Declaration.ofEntries entries with
      | ok declarations =>
          have areRead := Declaration.areRead_ofEntries entries
          rw [read] at areRead
          cases areRead with
          | declared each _ =>
              have sound : ∀ entry ∈ entries, IsSound entry :=
                fun entry isEntry => Declaration.isSound_iff.2 (each entry isEntry)
              exact .accepted ⟨entries, lists, sound⟩
      | error fault =>
          obtain ⟨entry, first, failed⟩ := Declaration.ofEntries_eq_error_iff.1 read
          have fares := Declaration.fares_ofEntry entry
          rw [failed] at fares
          cases fares with
          | refused malformed unbroken =>
              refine .refused (.entry lists first malformed) ?_
              cases fault with
              | broken cause => exact absurd rfl (unbroken cause)
              | _ => rfl
          | broken breaks => exact .broken (.entry lists first breaks) rfl

end Abi

end TokenLens
