import TokenLens.Abi.Surface
import TokenLens.Proofs.Abi.Entries
import TokenLens.Proofs.Outcome

/-!
# Which ABIs are accepted

An ABI is refused exactly if it is malformed (`Abi.selectors_refuses_malformed`): if it holds no
list of entries, or if an entry that declares something is not well-formed, at any depth. All others
have selectors, and whatever is let through is safe for the builder of signatures, which has no
checks of its own. The only other end is that of documents that are nested too deeply.
-/

namespace TokenLens

namespace Declaration

open ParamType (maxDepth)

variable {entries : List Json}

/-- What the reading of entries ends in. -/
inductive AreRead (entries : List Json) : Except EntryError (List Declaration) → Prop where
  | declared {declarations : List Declaration}
      (each : ∀ entry ∈ entries, ∃ declaration?, ofEntry entry = .ok declaration?)
      (all : ∀ declaration, declaration ∈ declarations ↔
        ∃ entry ∈ entries, ofEntry entry = .ok (some declaration)) :
      AreRead entries (.ok declarations)
  | refused {entry : Json} {fault : EntryError} (isEntry : entry ∈ entries)
      (refused : ofEntry entry = .error fault) : AreRead entries (.error fault)

/-- Entries are read as `AreRead` says. -/
theorem areRead_ofEntries (entries : List Json) : AreRead entries (ofEntries entries) := by
  induction entries with
  | nil => exact .declared (by simp) (by simp)
  | cons entry rest inductionHypothesis =>
      rw [ofEntries]
      cases isRead : ofEntry entry with
      | error fault => exact .refused List.mem_cons_self isRead
      | ok declaration? =>
          generalize ofEntries rest = outcome at inductionHypothesis ⊢
          cases inductionHypothesis with
          | refused isEntry refused => exact .refused (List.mem_cons_of_mem _ isEntry) refused
          | declared each all =>
              refine .declared (List.forall_mem_cons.2 ⟨⟨_, isRead⟩, each⟩) fun declaration => ?_
              rw [List.exists_mem_cons_iff, ← all, isRead, List.mem_append, Option.mem_toList,
                Except.ok.injEq]

/-- An entry that declares something and is read is well-formed. -/
theorem isWellFormed_of_ofEntry {kind : DeclarationKind} {entry : Json}
    {declaration? : Option Declaration} (isOfKind : IsOfKind kind entry)
    (isRead : ofEntry entry = .ok declaration?) : IsWellFormed maxDepth entry := by
  have becomes := becomes_ofEntry entry
  rw [isRead] at becomes
  cases becomes with
  | passedOver undeclared => exact absurd isOfKind (undeclared kind)
  | declared _ has shallow => exact isWellFormed_iff.2 ⟨_, has, shallow⟩

/-- An entry is read if it is well-formed, not too deep, and in bytes, should it declare
anything. -/
theorem exists_ofEntry {entry : Json}
    (sound : ∀ kind, IsOfKind kind entry → IsWellFormed maxDepth entry ∧ IsEncodable entry) :
    ∃ declaration?, ofEntry entry = .ok declaration? := by
  have becomes := becomes_ofEntry entry
  generalize ofEntry entry = outcome at becomes ⊢
  cases becomes with
  | passedOver => exact ⟨_, rfl⟩
  | declared => exact ⟨_, rfl⟩
  | malformed isOfKind malformed => exact absurd (sound _ isOfKind).1 (malformed maxDepth)
  | tooDeep isOfKind _ deep => exact absurd (sound _ isOfKind).1 deep
  | unencodable isOfKind has _ unencodable =>
      have hasBytes := (sound _ isOfKind).2.isEncodable has
      rw [unencodable] at hasBytes
      cases hasBytes

/-- The selector of an entry is that of its declaration. -/
theorem entrySelector_eq_some_iff {entry : Json} {text : Text} :
    entrySelector entry = .ok (some text) ↔
      ∃ declaration, ofEntry entry = .ok (some declaration) ∧ declaration.selector = text := by
  rw [entrySelector]
  cases ofEntry entry with
  | error fault => simp [Except.map]
  | ok declaration? => cases declaration? <;> simp [Except.map]

end Declaration

namespace Abi

open Declaration (IsOfKind IsWellFormed inputsOf)
open ParamType (SpellsTypes maxDepth)

variable {abi document : Json} {entries : List Json}

/-- What an ABI stands for: a text for the document that it spells, every other document for
itself. -/
inductive Stands : (abi document : Json) → Prop where
  | text {text : Text} {document : Json} (spelled : Json.read text = .ok document) :
      Stands (.str text) document
  | document {document : Json} (noText : ∀ text, document ≠ .str text) : Stands document document

/-- An ABI lists entries if it stands for them, or for an artifact that holds them. -/
def Lists (abi : Json) (entries : List Json) : Prop :=
  ∃ document, Stands abi document ∧
    (document = .arr entries ∨ document.member? "abi" = some (.arr entries))

/-- An entry of an ABI declares something of a kind. -/
def Declares (abi : Json) (kind : DeclarationKind) (entry : Json) : Prop :=
  ∃ entries, Lists abi entries ∧ entry ∈ entries ∧ IsOfKind kind entry

/-- An ABI is a text that is nested too deeply. -/
def IsTooDeepText (abi : Json) : Prop :=
  ∃ text, abi = .str text ∧ Json.read text = .error .tooDeep

/-- An ABI is nested too deeply, as a text or in the inputs of a well-formed entry. -/
inductive IsTooDeep (abi : Json) : Prop where
  | text (deep : IsTooDeepText abi)
  | entry {kind : DeclarationKind} {entry : Json} (declares : Declares abi kind entry)
      (wellFormed : ∃ levels, IsWellFormed levels entry) (deep : ¬ IsWellFormed maxDepth entry)

/-- An ABI is malformed: it has no list of entries, or an entry that declares something has no name
or has inputs that are no well-formed parameters. -/
inductive IsMalformed (abi : Json) : Prop where
  | noList (noList : ∀ entries, ¬ Lists abi entries) (shallow : ¬ IsTooDeepText abi)
  | entry {kind : DeclarationKind} {entry : Json} (declares : Declares abi kind entry)
      (malformed : ∀ levels, ¬ IsWellFormed levels entry)

/-- The entries that a document lists by itself or as an artifact. -/
theorem listed_unwrap_eq_ok_iff : listed (unwrap document) = .ok entries ↔
    document = .arr entries ∨ document.member? "abi" = some (.arr entries) := by
  have isList (inner : Json) : listed inner = .ok entries ↔ inner = .arr entries := by
    cases inner <;> simp [listed]
  rw [isList, unwrap]
  cases held : document.member? "abi" with
  | none => simp
  | some inner =>
      -- A document with members is no list.
      have noList : document ≠ .arr entries := by
        rintro rfl
        cases held
      simp [noList]

/-- An ABI has the entries that the document lists for which it stands. -/
theorem entries_of_stands (stands : Stands abi document) :
    Abi.entries abi = listed (unwrap document) := by
  cases stands with
  | text spelled => rw [Abi.entries, spelled]
  | document noText =>
      cases abi with
      | str text => exact absurd rfl (noText text)
      | _ => rfl

/-- An ABI stands for a document, or is a text that is refused. -/
theorem exists_stands_or_refused (abi : Json) : (∃ document, Stands abi document) ∨
    ∃ text fault, abi = .str text ∧ Json.read text = .error fault := by
  cases abi with
  | str text =>
      cases spelled : Json.read text with
      | ok document => exact .inl ⟨document, .text spelled⟩
      | error fault => exact .inr ⟨text, fault, rfl, spelled⟩
  | _ => exact .inl ⟨_, .document nofun⟩

/-- The entries of an ABI are those that it lists. -/
theorem entries_eq_ok_iff : Abi.entries abi = .ok entries ↔ Lists abi entries := by
  constructor
  · intro areEntries
    rcases exists_stands_or_refused abi with ⟨document, stands⟩ | ⟨text, fault, rfl, refused⟩
    · rw [entries_of_stands stands] at areEntries
      exact ⟨document, stands, listed_unwrap_eq_ok_iff.1 areEntries⟩
    · rw [Abi.entries, refused] at areEntries
      cases fault <;> cases areEntries
  · rintro ⟨document, stands, held⟩
    rw [entries_of_stands stands]
    exact listed_unwrap_eq_ok_iff.2 held

/-- An ABI lists its entries in one way at most. -/
theorem Lists.unique {others : List Json} (lists : Lists abi entries)
    (listsOthers : Lists abi others) : entries = others :=
  Except.ok.inj ((entries_eq_ok_iff.2 lists).symm.trans (entries_eq_ok_iff.2 listsOthers))

/-- What an ABI declares is among the entries that it lists. -/
theorem declares_iff {kind : DeclarationKind} {entry : Json} (lists : Lists abi entries) :
    Declares abi kind entry ↔ entry ∈ entries ∧ IsOfKind kind entry := by
  constructor
  · rintro ⟨others, listsOthers, isEntry, isOfKind⟩
    exact ⟨lists.unique listsOthers ▸ isEntry, isOfKind⟩
  · rintro ⟨isEntry, isOfKind⟩
    exact ⟨entries, lists, isEntry, isOfKind⟩

/-- An ABI that lists entries is no text that is nested too deeply. -/
theorem Lists.not_isTooDeepText (lists : Lists abi entries) : ¬ IsTooDeepText abi := by
  rintro ⟨text, rfl, deep⟩
  have areEntries := entries_eq_ok_iff.2 lists
  rw [Abi.entries, deep] at areEntries
  cases areEntries

/-- What the search for the entries of an ABI ends in. -/
inductive AreListed (abi : Json) : Except AbiError (List Json) → Prop where
  | listed {entries : List Json} (lists : Lists abi entries) : AreListed abi (.ok entries)
  | noList {fault : AbiError} (noList : ∀ entries, ¬ Lists abi entries)
      (shallow : ¬ IsTooDeepText abi) (unbroken : fault.breakdown? = none) :
      AreListed abi (.error fault)
  | tooDeep (deep : IsTooDeepText abi) : AreListed abi (.error (.broken .tooDeep))

/-- The entries are listed as `AreListed` says. -/
theorem areListed_entries (abi : Json) : AreListed abi (Abi.entries abi) := by
  cases areEntries : Abi.entries abi with
  | ok entries => exact .listed (entries_eq_ok_iff.1 areEntries)
  | error fault =>
      have noList (entries : List Json) : ¬ Lists abi entries := fun lists => by
        rw [entries_eq_ok_iff.2 lists] at areEntries
        cases areEntries
      rcases exists_stands_or_refused abi with ⟨document, stands⟩ | ⟨text, cause, rfl, refused⟩
      · rw [entries_of_stands stands] at areEntries
        refine .noList noList ?_ ?_
        · rintro ⟨text, rfl, deep⟩
          cases stands with
          | text spelled =>
              rw [spelled] at deep
              cases deep
          | document noText => exact noText text rfl
        · cases held : unwrap document <;> rw [held] at areEntries <;> cases areEntries <;> rfl
      · rw [Abi.entries, refused] at areEntries
        cases cause with
        | tooDeep =>
            cases areEntries
            exact .tooDeep ⟨text, rfl, refused⟩
        | _ =>
            cases areEntries
            refine .noList noList ?_ rfl
            rintro ⟨other, same, deep⟩
            obtain rfl := Json.str.inj same
            rw [refused] at deep
            cases deep

/-- The selectors of the declarations that entries make are those of the entries. -/
theorem mem_selectorsOf_iff {declarations : List Declaration}
    (all : ∀ declaration, declaration ∈ declarations ↔
      ∃ entry ∈ entries, Declaration.ofEntry entry = .ok (some declaration)) {selector : Text} :
    selector ∈ selectorsOf declarations ↔
      ∃ entry ∈ entries, Declaration.entrySelector entry = .ok (some selector) := by
  rw [selectorsOf, SelectorSet.mem_ofList, List.mem_map]
  constructor
  · rintro ⟨declaration, isDeclared, isSelector⟩
    obtain ⟨entry, isEntry, isRead⟩ := (all declaration).1 isDeclared
    exact ⟨entry, isEntry,
      Declaration.entrySelector_eq_some_iff.2 ⟨declaration, isRead, isSelector⟩⟩
  · rintro ⟨entry, isEntry, selected⟩
    obtain ⟨declaration, isRead, isSelector⟩ := Declaration.entrySelector_eq_some_iff.1 selected
    exact ⟨declaration, (all declaration).2 ⟨entry, isEntry, isRead⟩, isSelector⟩

/-- An ABI that lists entries has the selectors of what they declare. -/
theorem selectors_of_lists (lists : Lists abi entries) : selectors abi =
    ((Declaration.ofEntries entries).mapError .entry).map selectorsOf := by
  rw [selectors, declarations, entries_eq_ok_iff.2 lists]
  rfl

/-- Where an ABI has selectors, each of its entries is read, and the selectors are theirs. -/
theorem of_selectors_eq_ok (lists : Lists abi entries) {set : SelectorSet}
    (accepted : selectors abi = .ok set) :
    (∀ entry ∈ entries, ∃ declaration?, Declaration.ofEntry entry = .ok declaration?) ∧
      ∀ selector, selector ∈ set ↔
        ∃ entry ∈ entries, Declaration.entrySelector entry = .ok (some selector) := by
  rw [selectors_of_lists lists] at accepted
  have areRead := Declaration.areRead_ofEntries entries
  generalize Declaration.ofEntries entries = outcome at areRead accepted
  cases areRead with
  | refused => cases accepted
  | declared each all =>
      obtain rfl := Except.ok.inj accepted
      exact ⟨each, fun selector => mem_selectorsOf_iff all⟩

/-- An ABI has selectors if each of its entries is read. -/
theorem exists_selectors (lists : Lists abi entries)
    (each : ∀ entry ∈ entries, ∃ declaration?, Declaration.ofEntry entry = .ok declaration?) :
    ∃ set, selectors abi = .ok set := by
  rw [selectors_of_lists lists]
  have areRead := Declaration.areRead_ofEntries entries
  generalize Declaration.ofEntries entries = outcome at areRead
  cases areRead with
  | refused isEntry refused =>
      obtain ⟨declaration?, isRead⟩ := each _ isEntry
      cases isRead.symm.trans refused
  | declared => exact ⟨_, rfl⟩

/-- What the search for the selectors of an ABI ends in. -/
inductive Ends (abi : Json) : Except AbiError SelectorSet → Prop where
  | accepted {set : SelectorSet} (wellFormed : ¬ IsMalformed abi) (shallow : ¬ IsTooDeep abi)
      (all : ∀ selector, selector ∈ set ↔ ∃ entries, Lists abi entries ∧
        ∃ entry ∈ entries, Declaration.entrySelector entry = .ok (some selector)) :
      Ends abi (.ok set)
  | refused {fault : AbiError} (malformed : IsMalformed abi)
      (unbroken : fault.breakdown? = none) : Ends abi (.error fault)
  | broken {fault : AbiError} (deep : IsTooDeep abi)
      (isBroken : fault.breakdown? = some .tooDeep) : Ends abi (.error fault)

/-- The selectors of an ABI whose names and types have bytes are found as `Ends` says. -/
theorem ends_selectors
    (encodable : ∀ kind entry, Declares abi kind entry → Declaration.IsEncodable entry) :
    Ends abi (selectors abi) := by
  unfold selectors declarations
  have areListed := areListed_entries abi
  generalize Abi.entries abi = outcome at areListed ⊢
  cases areListed with
  | noList noList shallow unbroken => exact .refused (.noList noList shallow) unbroken
  | tooDeep deep => exact .broken (.text deep) rfl
  | @listed entries lists =>
      have areRead := Declaration.areRead_ofEntries entries
      change Ends abi (((Declaration.ofEntries entries).mapError AbiError.entry).map selectorsOf)
      generalize Declaration.ofEntries entries = outcome at areRead ⊢
      cases areRead with
      | @refused entry fault isEntry refused =>
          have becomes := Declaration.becomes_ofEntry entry
          rw [refused] at becomes
          cases becomes with
          | malformed isOfKind malformed unbroken =>
              refine .refused (.entry ⟨entries, lists, isEntry, isOfKind⟩ malformed) ?_
              cases fault with
              | broken cause => exact absurd rfl (unbroken cause)
              | _ => rfl
          | tooDeep isOfKind wellFormed deep =>
              exact .broken (.entry ⟨entries, lists, isEntry, isOfKind⟩ wellFormed deep) rfl
          | unencodable isOfKind has _ unencodable =>
              have declares : Declares abi _ entry := ⟨entries, lists, isEntry, isOfKind⟩
              have hasBytes := (encodable _ entry declares).isEncodable has
              rw [unencodable] at hasBytes
              cases hasBytes
      | @declared declarations each all =>
          have wellFormed {kind : DeclarationKind} {entry : Json}
              (declares : Declares abi kind entry) : IsWellFormed maxDepth entry := by
            obtain ⟨isEntry, isOfKind⟩ := (declares_iff lists).1 declares
            obtain ⟨declaration?, isRead⟩ := each entry isEntry
            exact Declaration.isWellFormed_of_ofEntry isOfKind isRead
          refine .accepted ?_ ?_ fun selector => ?_
          · rintro (⟨noList, -⟩ | ⟨declares, malformed⟩)
            · exact noList entries lists
            · exact malformed maxDepth (wellFormed declares)
          · rintro (deep | ⟨declares, -, deep⟩)
            · exact lists.not_isTooDeepText deep
            · exact deep (wellFormed declares)
          · rw [mem_selectorsOf_iff all]
            constructor
            · exact fun selected => ⟨entries, lists, selected⟩
            · rintro ⟨others, listsOthers, selected⟩
              rwa [← lists.unique listsOthers] at selected

/-- An artifact with one entry, a function with so many tuples inside each other. -/
def artifactOf (count : Nat) : Json :=
  .obj [("abi", .arr [Declaration.nestedEntry count])]

/-- What such an artifact declares. -/
theorem eq_nestedEntry_of_declares_artifactOf {count : Nat} {kind : DeclarationKind} {entry : Json}
    (declares : Declares (artifactOf count) kind entry) : entry = Declaration.nestedEntry count :=
  List.mem_singleton.1 ((declares_iff (entries_eq_ok_iff.1 rfl)).1 declares).1

/-- The names and types of such an artifact have bytes. -/
theorem isEncodable_of_declares_artifactOf (count : Nat) (kind : DeclarationKind) (entry : Json)
    (declares : Declares (artifactOf count) kind entry) : Declaration.IsEncodable entry := by
  rw [eq_nestedEntry_of_declares_artifactOf declares]
  exact Declaration.isEncodable_nestedEntry count

/-- Such an artifact is never malformed. -/
theorem not_isMalformed_artifactOf (count : Nat) : ¬ IsMalformed (artifactOf count) := by
  rintro (⟨noList, -⟩ | ⟨declares, malformed⟩)
  · exact noList _ (entries_eq_ok_iff.1 rfl)
  · rw [eq_nestedEntry_of_declares_artifactOf declares] at malformed
    exact malformed count (Declaration.isWellFormed_nestedEntry_iff.2 (Nat.le_refl count))

/-- Such an artifact is nested too deeply exactly if more tuples stand inside each other than
may. -/
theorem isTooDeep_artifactOf_iff {count : Nat} :
    IsTooDeep (artifactOf count) ↔ maxDepth < count := by
  constructor
  · rintro (deep | ⟨declares, -, deep⟩)
    · exact absurd deep (Lists.not_isTooDeepText (entries_eq_ok_iff.1 rfl))
    · rw [eq_nestedEntry_of_declares_artifactOf declares,
        Declaration.isWellFormed_nestedEntry_iff] at deep
      exact Nat.not_le.1 deep
  · intro deep
    have declares : Declares (artifactOf count) .function (Declaration.nestedEntry count) :=
      (declares_iff (entries_eq_ok_iff.1 rfl)).2
        ⟨List.mem_singleton_self _, Declaration.isOfKind_nestedEntry count⟩
    have wellFormed : IsWellFormed count (Declaration.nestedEntry count) :=
      Declaration.isWellFormed_nestedEntry_iff.2 (Nat.le_refl count)
    refine .entry declares ⟨count, wellFormed⟩ fun shallow => ?_
    exact absurd (Declaration.isWellFormed_nestedEntry_iff.1 shallow) (Nat.not_le.2 deep)

end Abi

end TokenLens
