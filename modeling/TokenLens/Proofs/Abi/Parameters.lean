import Mathlib.Data.List.Forall2
import TokenLens.Abi.Declaration

/-!
# Well-formed parameters

What a document has to hold to be a list of parameters, said without the reader: a list of objects
that each state a type and, if this is the type of a tuple, components of which as much is asked, at
every depth (`ParamType.AreParameters`). The reader accepts exactly these documents
(`ParamType.areParameters_iff`).

The text that is hashed for a signature comes from a builder of its own, which is taken to spell the
type of a parameter from the members `type` and `components` alone (`ParamType.SpellsTypes`). It has
no checks, but every well-formed parameter has what it looks for, and it spells the type as the
signature shows it (`ParamType.SpellsTypes.inputs`).
-/

namespace TokenLens.ParamType

variable {document item : Json} {items : List Json} {type : ParamType} {types : List ParamType}
  {levels bound : Nat}

/-- A document lists parameters if each item states a type and, if that is the type of a tuple,
components that meet a condition. -/
def ListsParameters (areComponents : Json → Prop) (document : Json) : Prop :=
  ∃ items, document = .arr items ∧ ∀ item ∈ items,
    ∃ typeName, item.member? "type" = some (.str typeName) ∧
      (tupleWord <+: typeName →
        ∃ components, item.member? "components" = some components ∧ areComponents components)

/-- A document is a list of well-formed parameters, in which at most so many tuples stand inside
each other. -/
def AreParameters : (levels : Nat) → Json → Prop
  | 0 => ListsParameters fun _ => False
  | levels + 1 => ListsParameters (AreParameters levels)

/-- What the reader makes of a parameter. -/
inductive IsReadAs (item : Json) : ParamType → Prop where
  | elementary {typeName : Text} (typed : item.member? "type" = some (.str typeName))
      (plain : ¬ tupleWord <+: typeName) : IsReadAs item (.elementary typeName)
  | tuple {typeName : Text} {components : Json} {types : List ParamType}
      (typed : item.member? "type" = some (.str typeName)) (isTuple : tupleWord <+: typeName)
      (listed : item.member? "components" = some components)
      (read : ofInputs? components = some types) :
      IsReadAs item (.tuple types (typeName.drop tupleWord.length))

/-- The components are what is found under their key. -/
theorem ofComponents?_eq (members : List (Text × Json)) :
    ofComponents? members = (Keyed.get? "components" members).bind ofInputs? := by
  induction members with
  | nil => rfl
  | cons pair rest inductionHypothesis =>
      obtain ⟨key, value⟩ := pair
      rw [ofComponents?, Keyed.get?]
      split
      · rfl
      · exact inductionHypothesis

/-- A parameter is read as `IsReadAs` says. -/
theorem ofParameter?_eq_some_iff : ofParameter? item = some type ↔ IsReadAs item type := by
  constructor
  · intro read
    cases item with
    | obj members =>
        rw [ofParameter?] at read
        split at read
        next typeName typed =>
          split at read
          next starts =>
            have isTuple := List.isPrefixOf_iff_prefix.1 starts
            rw [ofComponents?_eq] at read
            cases listed : Keyed.get? "components" members with
            | none => simp [listed] at read
            | some components =>
                cases inner : ofInputs? components with
                | none => simp [listed, inner] at read
                | some types =>
                    simp only [listed, Option.bind_some, inner, Option.some.injEq] at read
                    rw [← read]
                    exact .tuple typed isTuple listed inner
          next noStart =>
            have plain := mt List.isPrefixOf_iff_prefix.2 noStart
            rw [← Option.some.inj read]
            exact .elementary typed plain
        next => cases read
    | _ => cases read
  · intro isRead
    cases isRead with
    | elementary typed plain =>
        cases item with
        | obj members =>
            rw [ofParameter?, show Keyed.get? "type" members = _ from typed]
            simp [mt List.isPrefixOf_iff_prefix.1 plain]
        | _ => cases typed
    | tuple typed isTuple listed read =>
        cases item with
        | obj members =>
            rw [ofParameter?, show Keyed.get? "type" members = _ from typed, ofComponents?_eq,
              show Keyed.get? "components" members = _ from listed]
            simp [List.isPrefixOf_iff_prefix.2 isTuple, read]
        | _ => cases typed

/-- The inputs are read from a list. -/
theorem ofInputs?_eq_some_iff :
    ofInputs? document = some types ↔
      ∃ items, document = .arr items ∧ ofItems? items = some types := by
  cases document with
  | arr items => simp [ofInputs?]
  | _ => simp [ofInputs?]

/-- A list is read exactly if each item is. -/
theorem ofItems?_le_iff :
    (∃ types, ofItems? items = some types ∧ listDepth types ≤ bound) ↔
      ∀ item ∈ items, ∃ type, ofParameter? item = some type ∧ depth type ≤ bound := by
  induction items with
  | nil => simp [ofItems?, listDepth]
  | cons item rest inductionHypothesis =>
      rw [List.forall_mem_cons, ← inductionHypothesis, ofItems?]
      constructor
      · rintro ⟨types, read, shallow⟩
        split at read
        next type others isRead areRead =>
          obtain rfl := Option.some.inj read
          rw [listDepth, Nat.max_le] at shallow
          exact ⟨⟨type, isRead, shallow.1⟩, others, areRead, shallow.2⟩
        next => cases read
      · rintro ⟨⟨type, isRead, shallow⟩, others, areRead, othersShallow⟩
        refine ⟨type :: others, ?_, ?_⟩
        · rw [isRead, areRead]
        · exact Nat.max_le.2 ⟨shallow, othersShallow⟩

/-- One level of parameters is read, given how their components are. -/
theorem listsParameters_iff {areComponents : Json → Prop}
    (areRead : ∀ components, areComponents components ↔
      ∃ types, ofInputs? components = some types ∧ listDepth types < bound) :
    ListsParameters areComponents document ↔
      ∃ types, ofInputs? document = some types ∧ listDepth types ≤ bound := by
  have isRead (item : Json) : (∃ typeName, item.member? "type" = some (.str typeName) ∧
        (tupleWord <+: typeName →
          ∃ components, item.member? "components" = some components ∧ areComponents components)) ↔
      ∃ type, ofParameter? item = some type ∧ depth type ≤ bound := by
    simp only [ofParameter?_eq_some_iff]
    constructor
    · rintro ⟨typeName, typed, nested⟩
      by_cases isTuple : tupleWord <+: typeName
      · obtain ⟨components, listed, wellFormed⟩ := nested isTuple
        obtain ⟨types, read, shallow⟩ := (areRead components).1 wellFormed
        exact ⟨_, .tuple typed isTuple listed read, shallow⟩
      · exact ⟨_, .elementary typed isTuple, Nat.zero_le bound⟩
    · rintro ⟨type, isRead, shallow⟩
      cases isRead with
      | elementary typed plain => exact ⟨_, typed, fun isTuple => absurd isTuple plain⟩
      | tuple typed isTuple listed read =>
          exact ⟨_, typed, fun _ => ⟨_, listed, (areRead _).2 ⟨_, read, shallow⟩⟩⟩
  simp only [ListsParameters, isRead, ← ofItems?_le_iff, ofInputs?_eq_some_iff]
  constructor
  · rintro ⟨items, isList, types, read, shallow⟩
    exact ⟨types, ⟨items, isList, read⟩, shallow⟩
  · rintro ⟨types, ⟨items, isList, read⟩, shallow⟩
    exact ⟨items, isList, types, read, shallow⟩

/-- Well-formed parameters are exactly those that are read. -/
theorem areParameters_iff : AreParameters levels document ↔
    ∃ types, ofInputs? document = some types ∧ listDepth types ≤ levels := by
  induction levels generalizing document with
  | zero => exact listsParameters_iff (by simp)
  | succ levels inductionHypothesis =>
      exact listsParameters_iff fun components => by
        simp only [inductionHypothesis, Nat.lt_succ_iff]

/-- What holds of a parameter and its type once it holds of the components and theirs. -/
structure IsCompositional (holds : Json → ParamType → Prop) : Prop where
  elementary {item : Json} {typeName : Text} :
    item.member? "type" = some (.str typeName) → ¬ tupleWord <+: typeName →
    holds item (.elementary typeName)
  tuple {item : Json} {typeName : Text} {components : List Json} {types : List ParamType} :
    item.member? "type" = some (.str typeName) → tupleWord <+: typeName →
    item.member? "components" = some (.arr components) → List.Forall₂ holds components types →
    holds item (.tuple types (typeName.drop tupleWord.length))

section Induction

variable {holds : Json → ParamType → Prop}

mutual

/-- What is compositional holds of all that is read. -/
theorem IsCompositional.parameter (compositional : IsCompositional holds) :
    (type : ParamType) → ∀ {item}, ofParameter? item = some type → holds item type
  | .elementary name, item, isRead => by
      cases ofParameter?_eq_some_iff.1 isRead with
      | elementary typed plain => exact compositional.elementary typed plain
  | .tuple types suffix, item, isRead => by
      cases ofParameter?_eq_some_iff.1 isRead with
      | tuple typed isTuple listed read =>
          obtain ⟨components, rfl, areRead⟩ := ofInputs?_eq_some_iff.1 read
          exact compositional.tuple typed isTuple listed (compositional.list types areRead)

/-- What is compositional holds of all items of a list that is read. -/
theorem IsCompositional.list (compositional : IsCompositional holds) :
    (types : List ParamType) → ∀ {items}, ofItems? items = some types →
      List.Forall₂ holds items types
  | [], [], _ => .nil
  | [], item :: rest, read => by
      rw [ofItems?] at read
      split at read
      · cases read
      · cases read
  | _ :: _, [], read => by cases read
  | type :: others, item :: rest, read => by
      rw [ofItems?] at read
      split at read
      next isRead areRead =>
        obtain ⟨rfl, rfl⟩ := List.cons.inj (Option.some.inj read)
        exact .cons (compositional.parameter _ isRead) (compositional.list _ areRead)
      next => cases read

end

end Induction

/-- The types that a parameter states, at every depth. -/
inductive States : (item : Json) → (typeName : Text) → Prop where
  | here {item : Json} {typeName : Text} (typed : item.member? "type" = some (.str typeName)) :
      States item typeName
  | deeper {item : Json} {tupleName typeName : Text} {components : List Json} {component : Json}
      (typed : item.member? "type" = some (.str tupleName)) (isTuple : tupleWord <+: tupleName)
      (listed : item.member? "components" = some (.arr components))
      (isComponent : component ∈ components) (states : States component typeName) :
      States item typeName

/-- What the builder of signatures is taken to do with a parameter. A type that is not that of a
tuple stands for itself; that of a tuple is replaced by the types of its components in parentheses,
with what follows the word `tuple` behind them. Nothing is said of other documents. -/
structure SpellsTypes (spell : Json → Option Text) : Prop where
  elementary {item : Json} {typeName : Text} :
    item.member? "type" = some (.str typeName) → ¬ tupleWord <+: typeName →
    spell item = some typeName
  tuple {item : Json} {typeName : Text} {components : List Json} {texts : List Text} :
    item.member? "type" = some (.str typeName) → tupleWord <+: typeName →
    item.member? "components" = some (.arr components) → components.map spell = texts.map some →
    spell item =
      some ("(" ++ List.intercalate "," texts ++ ")" ++ typeName.drop tupleWord.length)

/-- Types are shown with commas between them. -/
theorem listText_eq_intercalate (types : List ParamType) :
    listText types = List.intercalate "," (types.map text) := by
  induction types with
  | nil => rfl
  | cons type rest inductionHypothesis =>
      cases rest with
      | nil => simp [listText]
      | cons next others =>
          rw [listText, inductionHypothesis, List.map_cons, List.map_cons, List.map_cons,
            List.intercalate_cons_cons]

/-- Items that are shown are read. -/
theorem ofItems?_of_shown {texts : List Text}
    (shown : items.map (fun item => (ofParameter? item).map text) = texts.map some) :
    ∃ types, ofItems? items = some types ∧ types.map text = texts := by
  induction items generalizing texts with
  | nil => exact ⟨[], rfl, by simpa using shown⟩
  | cons item rest inductionHypothesis =>
      cases texts with
      | nil => simp at shown
      | cons first others =>
          obtain ⟨itemShown, restShown⟩ := List.cons.inj shown
          obtain ⟨type, isRead, rfl⟩ := Option.map_eq_some_iff.1 itemShown
          obtain ⟨types, areRead, rfl⟩ := inductionHypothesis restShown
          refine ⟨type :: types, ?_, rfl⟩
          rw [ofItems?, isRead, areRead]

namespace SpellsTypes

variable {spell : Json → Option Text}

/-- Items are spelled if each is spelled as its type is shown. -/
theorem map_eq (spelled : List.Forall₂ (fun item type => spell item = some type.text) items types) :
    items.map spell = (types.map text).map some := by
  induction spelled with
  | nil => rfl
  | cons here _ inductionHypothesis =>
      rw [List.map_cons, List.map_cons, List.map_cons, here, inductionHypothesis]

/-- To be spelled as its type is shown holds of a parameter once it holds of its components. -/
theorem isCompositional (spells : SpellsTypes spell) :
    IsCompositional fun item type => spell item = some type.text where
  elementary typed plain := spells.elementary typed plain
  tuple typed isTuple listed spelled := by
    rw [spells.tuple typed isTuple listed (map_eq spelled), text, listText_eq_intercalate]

/-- Inputs that are read are spelled as their types are shown. -/
theorem inputs (spells : SpellsTypes spell) (read : ofInputs? document = some types) :
    ∃ items, document = .arr items ∧ items.map spell = (types.map text).map some := by
  obtain ⟨items, isList, itemsRead⟩ := ofInputs?_eq_some_iff.1 read
  exact ⟨items, isList, map_eq (spells.isCompositional.list types itemsRead)⟩

/-- The types as they are shown are spelled so. -/
theorem shown : SpellsTypes fun item => (ofParameter? item).map text where
  elementary typed plain := by
    rw [ofParameter?_eq_some_iff.2 (.elementary typed plain)]
    rfl
  tuple {_ _ components texts} typed isTuple listed shown := by
    obtain ⟨types, areRead, rfl⟩ := ofItems?_of_shown shown
    have read : ofInputs? (.arr components) = some types := by rw [ofInputs?, areRead]
    rw [ofParameter?_eq_some_iff.2 (.tuple typed isTuple listed read), Option.map_some, text,
      listText_eq_intercalate]

end SpellsTypes

end TokenLens.ParamType
