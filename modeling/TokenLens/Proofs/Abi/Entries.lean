import TokenLens.Proofs.Abi.Parameters

/-!
# What becomes of an entry

An entry that declares a function or an event must have a name that is not empty, and inputs that
are well-formed parameters (`Declaration.IsWellFormed`). `Declaration.becomes_ofEntry` lists all
that can become of an entry: it is passed over, it is declared, or it is refused as malformed. Two
more ends are breakdowns: tuples that stand too deep inside each other, and a signature that has no
bytes. Functions with tuples of every depth are well-formed
(`Declaration.isWellFormed_nestedEntry_iff`), so the first of them is one that can be met.
-/

namespace TokenLens

namespace Text

/-- A text that has bytes: no half of a pair stands in it alone. -/
def IsEncodable (text : Text) : Prop :=
  ∀ point ∈ text, ∃ character, point = .char character

/-- A text has bytes exactly if it is made of characters. -/
theorem isSome_chars?_iff {text : Text} : text.chars?.isSome = true ↔ text.IsEncodable := by
  induction text with
  | nil => simp [chars?, IsEncodable]
  | cons point rest inductionHypothesis =>
      rw [IsEncodable] at inductionHypothesis
      cases point with
      | char character => simpa [chars?, IsEncodable] using inductionHypothesis
      | half offset => simp [chars?, IsEncodable]

/-- Every string has bytes. -/
theorem isEncodable_ofString (string : String) : IsEncodable (string : Text) := by
  intro point isPoint
  obtain ⟨character, -, rfl⟩ := List.mem_map.1 isPoint
  exact ⟨character, rfl⟩

/-- Two texts side by side have bytes exactly if both do. -/
theorem isEncodable_append {left right : Text} :
    IsEncodable (left ++ right) ↔ left.IsEncodable ∧ right.IsEncodable :=
  List.forall_mem_append

/-- Texts with commas between them have bytes if each of them does. -/
theorem isEncodable_intercalate {texts : List Text} (each : ∀ text ∈ texts, text.IsEncodable) :
    IsEncodable (List.intercalate "," texts) := by
  induction texts with
  | nil => exact isEncodable_ofString ""
  | cons first rest inductionHypothesis =>
      obtain ⟨here, later⟩ := List.forall_mem_cons.1 each
      cases rest with
      | nil => simpa using here
      | cons next others =>
          rw [List.intercalate_cons_cons, isEncodable_append, isEncodable_append]
          exact ⟨⟨here, isEncodable_ofString ","⟩, inductionHypothesis later⟩

end Text

namespace ParamType

/-- The types that a parameter states at every depth have bytes. -/
def StatesEncodable (item : Json) : Prop :=
  ∀ typeName, States item typeName → typeName.IsEncodable

/-- Types with commas between them have bytes if each has that is stated in bytes. -/
theorem isEncodable_listText {items : List Json} {types : List ParamType}
    (each : List.Forall₂ (fun item type => StatesEncodable item → type.text.IsEncodable)
      items types)
    (encodable : ∀ item ∈ items, StatesEncodable item) : (listText types).IsEncodable := by
  rw [listText_eq_intercalate]
  refine Text.isEncodable_intercalate (List.forall_mem_map.2 ?_)
  induction each with
  | nil => exact nofun
  | cons here _ inductionHypothesis =>
      obtain ⟨hereEncodable, laterEncodable⟩ := List.forall_mem_cons.1 encodable
      exact List.forall_mem_cons.2 ⟨here hereEncodable, inductionHypothesis laterEncodable⟩

/-- A type has bytes if all that its parameter states has. -/
theorem isCompositional_encodable :
    IsCompositional fun item type => StatesEncodable item → type.text.IsEncodable where
  elementary typed _ encodable := by
    rw [text]
    exact encodable _ (.here typed)
  tuple {item typeName components types} typed isTuple listed each encodable := by
    have inner : ∀ component ∈ components, StatesEncodable component :=
      fun component isComponent other states =>
        encodable other (.deeper typed isTuple listed isComponent states)
    have whole : typeName.IsEncodable := encodable typeName (.here typed)
    rw [text, Text.isEncodable_append, Text.isEncodable_append, Text.isEncodable_append]
    refine ⟨⟨⟨Text.isEncodable_ofString "(", isEncodable_listText each inner⟩,
      Text.isEncodable_ofString ")"⟩, fun point isPoint => ?_⟩
    exact whole point (List.mem_of_mem_drop isPoint)

end ParamType

/-- The word that is the type of an entry of a kind. -/
def DeclarationKind.word : DeclarationKind → Text
  | .function => "function"
  | .event => "event"

namespace Declaration

open ParamType (AreParameters StatesEncodable maxDepth listDepth ofInputs?)

variable {entry : Json} {kind : DeclarationKind} {signature : Signature} {levels : Nat}

/-- An entry declares something of a kind if that is its type. -/
def IsOfKind (kind : DeclarationKind) (entry : Json) : Prop :=
  entry.member? "type" = some (.str kind.word)

/-- The inputs of an entry; an empty list where it states none. -/
def inputsOf (entry : Json) : Json :=
  (entry.member? "inputs").getD (.arr [])

/-- An entry has a name that is not empty, and inputs that are well-formed parameters with at most
so many tuples inside each other. -/
structure IsWellFormed (levels : Nat) (entry : Json) : Prop where
  named : ∃ name, name ≠ [] ∧ entry.member? "name" = some (.str name)
  inputs : AreParameters levels (inputsOf entry)

/-- The name of an entry and the types of its inputs have bytes. -/
structure IsEncodable (entry : Json) : Prop where
  name : ∀ name, entry.member? "name" = some (.str name) → Text.IsEncodable name
  types : ∀ items, inputsOf entry = .arr items → ∀ item ∈ items, StatesEncodable item

/-- An entry states a signature. -/
structure HasSignature (entry : Json) (signature : Signature) : Prop where
  someName : signature.name ≠ []
  name : entry.member? "name" = some (.str signature.name)
  inputs : ofInputs? (inputsOf entry) = some signature.inputs

/-- What is found under a key of an entry, a document without members included. -/
theorem get?_membersOrNone (key : Text) (entry : Json) :
    Keyed.get? key entry.membersOrNone = entry.member? key := by
  cases entry with
  | obj members => rfl
  | _ => rfl

/-- A well-formed entry states a signature. -/
theorem isWellFormed_iff : IsWellFormed levels entry ↔
    ∃ signature, HasSignature entry signature ∧ listDepth signature.inputs ≤ levels := by
  constructor
  · rintro ⟨⟨name, someName, isName⟩, areParameters⟩
    obtain ⟨types, read, shallow⟩ := ParamType.areParameters_iff.1 areParameters
    exact ⟨⟨name, types⟩, ⟨someName, isName, read⟩, shallow⟩
  · rintro ⟨signature, ⟨someName, isName, read⟩, shallow⟩
    exact ⟨⟨_, someName, isName⟩, ParamType.areParameters_iff.2 ⟨_, read, shallow⟩⟩

/-- An entry states one signature at most. -/
theorem HasSignature.unique {other : Signature} (has : HasSignature entry signature)
    (hasOther : HasSignature entry other) : signature = other := by
  obtain ⟨name, inputs⟩ := signature
  obtain ⟨otherName, otherInputs⟩ := other
  obtain rfl : name = otherName :=
    Json.str.inj (Option.some.inj (has.name.symm.trans hasOther.name))
  obtain rfl : inputs = otherInputs := Option.some.inj (has.inputs.symm.trans hasOther.inputs)
  rfl

/-- The text of a signature has bytes if its entry has names and types that have bytes. -/
theorem IsEncodable.isEncodable (encodable : IsEncodable entry)
    (has : HasSignature entry signature) : signature.isEncodable = true := by
  obtain ⟨items, isList, read⟩ := ParamType.ofInputs?_eq_some_iff.1 has.inputs
  have inputs := ParamType.isEncodable_listText
    (ParamType.isCompositional_encodable.list _ read) (encodable.types items isList)
  rw [Signature.isEncodable, Text.isSome_chars?_iff, Signature.text, Text.isEncodable_append,
    Text.isEncodable_append, Text.isEncodable_append]
  exact ⟨⟨⟨encodable.name _ has.name, Text.isEncodable_ofString "("⟩, inputs⟩,
    Text.isEncodable_ofString ")"⟩

/-- What the search for a signature in an entry ends in. -/
inductive IsRead (entry : Json) : Except EntryError Signature → Prop where
  | signature {signature : Signature} (has : HasSignature entry signature)
      (shallow : listDepth signature.inputs ≤ maxDepth) : IsRead entry (.ok signature)
  | tooDeep {signature : Signature} (has : HasSignature entry signature)
      (deep : maxDepth < listDepth signature.inputs) : IsRead entry (.error (.broken .tooDeep))
  | unnamed (noName : ∀ name, name ≠ [] → entry.member? "name" ≠ some (.str name)) :
      IsRead entry (.error (unnamedError (entry.member? "type")))
  | malformed {name : Text} (isName : entry.member? "name" = some (.str name))
      (unread : ofInputs? (inputsOf entry) = none) : IsRead entry (.error (.malformedInputs name))

/-- A signature is read as `IsRead` says. -/
theorem isRead_signatureOf (entry : Json) : IsRead entry (signatureOf entry.membersOrNone) := by
  simp only [signatureOf, get?_membersOrNone]
  split
  next name isName =>
    split
    next isEmpty =>
      refine .unnamed fun other someName isOther => ?_
      obtain rfl := Json.str.inj (Option.some.inj (isName.symm.trans isOther))
      exact someName (List.isEmpty_iff.1 isEmpty)
    next notEmpty =>
      have someName : name ≠ [] := fun isEmpty => notEmpty (List.isEmpty_iff.2 isEmpty)
      split
      next inputs read =>
        have has : HasSignature entry ⟨name, inputs⟩ := ⟨someName, isName, read⟩
        split
        next deep => exact .tooDeep has deep
        next shallow => exact .signature has (Nat.not_lt.1 shallow)
      next unread => exact .malformed isName unread
  next noName => exact .unnamed fun name _ isName => noName name isName

/-- What becomes of an entry. -/
inductive Becomes (entry : Json) : Except EntryError (Option Declaration) → Prop where
  | passedOver (undeclared : ∀ kind, ¬ IsOfKind kind entry) : Becomes entry (.ok none)
  | declared {kind : DeclarationKind} {signature : Signature} (isOfKind : IsOfKind kind entry)
      (has : HasSignature entry signature) (shallow : listDepth signature.inputs ≤ maxDepth)
      (encodable : signature.isEncodable = true) : Becomes entry (.ok (some ⟨kind, signature⟩))
  | malformed {kind : DeclarationKind} {fault : EntryError} (isOfKind : IsOfKind kind entry)
      (malformed : ∀ levels, ¬ IsWellFormed levels entry)
      (unbroken : ∀ cause, fault ≠ .broken cause) : Becomes entry (.error fault)
  | tooDeep {kind : DeclarationKind} (isOfKind : IsOfKind kind entry)
      (wellFormed : ∃ levels, IsWellFormed levels entry) (deep : ¬ IsWellFormed maxDepth entry) :
      Becomes entry (.error (.broken .tooDeep))
  | unencodable {kind : DeclarationKind} {signature : Signature} (isOfKind : IsOfKind kind entry)
      (has : HasSignature entry signature) (shallow : listDepth signature.inputs ≤ maxDepth)
      (unencodable : signature.isEncodable = false) : Becomes entry (.error (.broken .unencodable))

/-- A type names a kind exactly if it is the word for it. -/
theorem kindOf?_eq_some_iff {type? : Option Json} :
    kindOf? type? = some kind ↔ type? = some (.str kind.word) := by
  constructor
  · intro named
    unfold kindOf? at named
    split at named
    next typeName =>
      split at named
      next isFunction =>
        obtain rfl := Option.some.inj named
        rw [isFunction]
        rfl
      next =>
        split at named
        next isEvent =>
          obtain rfl := Option.some.inj named
          rw [isEvent]
          rfl
        next => cases named
    next => cases named
  · rintro rfl
    cases kind <;> decide

/-- An entry is read by its type and the signature that it states. -/
theorem ofEntry_eq (entry : Json) : ofEntry entry =
    match kindOf? (entry.member? "type") with
    | some kind => do
        let signature ← signatureOf entry.membersOrNone
        if signature.isEncodable then return some ⟨kind, signature⟩
        else .error (.broken .unencodable)
    | none => .ok none := by
  cases entry with
  | obj members => rfl
  | _ => rfl

/-- An entry becomes what `Becomes` lists. -/
theorem becomes_ofEntry (entry : Json) : Becomes entry (ofEntry entry) := by
  rw [ofEntry_eq]
  split
  next kind isKind =>
    have isOfKind : IsOfKind kind entry := kindOf?_eq_some_iff.1 isKind
    have read := isRead_signatureOf entry
    generalize signatureOf entry.membersOrNone = outcome at read ⊢
    cases read with
    | @signature signature has shallow =>
        change Becomes entry (if signature.isEncodable then .ok (some ⟨kind, signature⟩)
          else .error (.broken .unencodable))
        split
        next encodable => exact .declared isOfKind has shallow encodable
        next unencodable =>
          exact .unencodable isOfKind has shallow (Bool.eq_false_iff.2 unencodable)
    | @tooDeep signature has deep =>
        have wellFormed : IsWellFormed (listDepth signature.inputs) entry :=
          isWellFormed_iff.2 ⟨signature, has, Nat.le_refl _⟩
        refine .tooDeep isOfKind ⟨_, wellFormed⟩ fun shallow => ?_
        obtain ⟨other, hasOther, le⟩ := isWellFormed_iff.1 shallow
        rw [has.unique hasOther] at deep
        exact absurd le (Nat.not_le.2 deep)
    | unnamed noName =>
        refine .malformed isOfKind (fun levels wellFormed => ?_) (fun cause => ?_)
        · obtain ⟨name, someName, isName⟩ := wellFormed.named
          exact noName name someName isName
        · rw [isOfKind, unnamedError]
          exact nofun
    | malformed isName unread =>
        refine .malformed isOfKind (fun levels wellFormed => ?_) (fun cause => nofun)
        obtain ⟨signature, has, -⟩ := isWellFormed_iff.1 wellFormed
        rw [has.inputs] at unread
        cases unread
  next noKind =>
    refine .passedOver fun kind isOfKind => ?_
    rw [kindOf?_eq_some_iff.2 isOfKind] at noKind
    cases noKind

/-- A well-formed entry whose tuples stand too deep inside each other breaks the reading down. -/
theorem ofEntry_eq_tooDeep (isOfKind : IsOfKind kind entry) (wellFormed : IsWellFormed levels entry)
    (deep : ¬ IsWellFormed maxDepth entry) : ofEntry entry = .error (.broken .tooDeep) := by
  have becomes := becomes_ofEntry entry
  generalize ofEntry entry = outcome at becomes ⊢
  cases becomes with
  | passedOver undeclared => exact absurd isOfKind (undeclared kind)
  | declared _ has shallow => exact absurd (isWellFormed_iff.2 ⟨_, has, shallow⟩) deep
  | malformed _ malformed => exact absurd wellFormed (malformed levels)
  | tooDeep => rfl
  | unencodable _ has shallow => exact absurd (isWellFormed_iff.2 ⟨_, has, shallow⟩) deep

section Nested

variable {count : Nat} {items : List Json} {item : Json} {typeName : Text}

/-- Lists of tuples inside each other, so many of them, around one number. -/
def nestedInputs : Nat → Json
  | 0 => .arr [.obj [("type", .str "uint256")]]
  | count + 1 => .arr [.obj [("type", .str "tuple[]"), ("components", nestedInputs count)]]

/-- A function with so many tuples inside each other as its input. -/
def nestedEntry (count : Nat) : Json :=
  .obj [("type", .str "function"), ("name", .str "d"), ("inputs", nestedInputs count)]

/-- Such an entry declares a function. -/
theorem isOfKind_nestedEntry (count : Nat) : IsOfKind .function (nestedEntry count) :=
  rfl

/-- Tuples inside each other are read, as deep as they are. -/
theorem exists_ofInputs?_nestedInputs (count : Nat) :
    ∃ types, ofInputs? (nestedInputs count) = some types ∧ listDepth types = count := by
  induction count with
  | zero => exact ⟨[.elementary "uint256"], rfl, rfl⟩
  | succ count inductionHypothesis =>
      obtain ⟨types, read, depth⟩ := inductionHypothesis
      have isTuple : ParamType.tupleWord <+: ("tuple[]" : Text) := by decide
      have isRead : ParamType.ofParameter?
          (.obj [("type", .str "tuple[]"), ("components", nestedInputs count)]) =
            some (.tuple types "[]") :=
        ParamType.ofParameter?_eq_some_iff.2 (.tuple rfl isTuple rfl read)
      refine ⟨[.tuple types "[]"], ?_, ?_⟩
      · rw [nestedInputs, ofInputs?, ParamType.ofItems?, isRead]
        rfl
      · rw [listDepth, ParamType.depth, depth]
        exact Nat.max_zero _

/-- Such a function is well-formed exactly if as many levels are allowed. -/
theorem isWellFormed_nestedEntry_iff :
    IsWellFormed levels (nestedEntry count) ↔ count ≤ levels := by
  obtain ⟨types, read, depth⟩ := exists_ofInputs?_nestedInputs count
  have has : HasSignature (nestedEntry count) ⟨"d", types⟩ := ⟨List.cons_ne_nil _ _, rfl, read⟩
  rw [isWellFormed_iff]
  constructor
  · rintro ⟨signature, hasToo, shallow⟩
    rw [← has.unique hasToo] at shallow
    exact depth ▸ shallow
  · intro enough
    exact ⟨_, has, depth.symm ▸ enough⟩

/-- All types that tuples inside each other state have bytes. -/
theorem isEncodable_of_states_nestedInputs (count : Nat) (isList : nestedInputs count = .arr items)
    (isItem : item ∈ items) (states : ParamType.States item typeName) : typeName.IsEncodable := by
  induction count generalizing items item with
  | zero =>
      obtain rfl := Json.arr.inj isList
      obtain rfl := List.mem_singleton.1 isItem
      cases states with
      | here typed =>
          obtain rfl := Json.str.inj (Option.some.inj typed)
          exact Text.isEncodable_ofString "uint256"
      | deeper typed isTuple listed isComponent states => cases listed
  | succ count inductionHypothesis =>
      obtain rfl := Json.arr.inj isList
      obtain rfl := List.mem_singleton.1 isItem
      cases states with
      | here typed =>
          obtain rfl := Json.str.inj (Option.some.inj typed)
          exact Text.isEncodable_ofString "tuple[]"
      | deeper typed isTuple listed isComponent states =>
          exact inductionHypothesis (Option.some.inj listed) isComponent states

/-- The name and the types of such a function have bytes. -/
theorem isEncodable_nestedEntry (count : Nat) : IsEncodable (nestedEntry count) where
  name name isName := by
    obtain rfl := Json.str.inj (Option.some.inj isName)
    exact Text.isEncodable_ofString "d"
  types items isList item isItem _ states :=
    isEncodable_of_states_nestedInputs count isList isItem states

end Nested

end Declaration

end TokenLens
