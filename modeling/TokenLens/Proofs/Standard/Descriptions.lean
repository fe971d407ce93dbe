import TokenLens.Proofs.Abi.Acceptance
import TokenLens.Proofs.Abi.Hashing
import TokenLens.Proofs.Standard.Names

/-!
# Descriptions never lie

The names of a standard are put in one after the other, so an entry overwrites the text of an
earlier one with the same selector, and a standard hides the texts of those behind it. Whatever text
is left, the selector is cut from its hash (`Registry.describe_hashes`): a text is only ever put
under the selector that its own entry has.
-/

namespace TokenLens

/-- A selector is cut from the hash of a text, which has bytes: from those of the text without its
spaces. For a function it is four bytes of the hash, for an event all of them. -/
def DeclarationKind.IsSelectorOf (kind : DeclarationKind) (selector text : Text) : Prop :=
  ∃ characters, text = Text.ofChars characters ∧
    selector = Selector.ofBytes
      ((Keccak.hash ((characters.filter (· ≠ ' ')).flatMap String.utf8EncodeChar)).take kind.width)

namespace Declaration

variable {entries : List Json} {entry : Json} {declaration : Declaration} {selector : Text}

/-- An entry is the last of a list that has a selector. -/
def IsLastWith (selector : Text) (entries : List Json) (entry : Json) : Prop :=
  ∃ before after, entries = before ++ entry :: after ∧
    entrySelector entry = .ok (some selector) ∧
    ∀ later ∈ after, entrySelector later ≠ .ok (some selector)

/-- The selector of a declaration is cut from the hash of its signature. -/
theorem isSelectorOf_text (encodable : declaration.signature.isEncodable = true) :
    declaration.kind.IsSelectorOf declaration.selector declaration.signature.text := by
  obtain ⟨characters, isText⟩ := (Text.isSome_chars?_iff.1 encodable).exists_ofChars
  refine ⟨characters, isText, ?_⟩
  rw [selector_eq_take, Signature.hash, isText, Signature.hashedBytes_ofChars]

/-- An entry that makes a declaration is of its kind and states its signature, which has bytes. -/
theorem declares_of_ofEntry (declared : ofEntry entry = .ok (some declaration)) :
    IsOfKind declaration.kind entry ∧
    (signatureOf entry.membersOrNone).map Signature.text = .ok declaration.signature.text ∧
    declaration.signature.isEncodable = true := by
  have becomes := becomes_ofEntry entry
  rw [declared] at becomes
  cases becomes with
  | declared isOfKind has shallow encodable =>
      rw [signatureOf_eq_ok has shallow]
      exact ⟨isOfKind, rfl, encodable⟩

/-- A declaration in a list was made by an entry, and those behind it by the entries behind. -/
theorem exists_of_ofEntries_eq_append {before after : List Declaration}
    (declared : ofEntries entries = .ok (before ++ declaration :: after)) :
    ∃ earlier entry later, entries = earlier ++ entry :: later ∧
      ofEntry entry = .ok (some declaration) ∧ ofEntries later = .ok after := by
  induction entries generalizing before with
  | nil => cases before <;> cases declared
  | cons first rest inductionHypothesis =>
      obtain ⟨declaration?, here, declared⟩ := exists_of_bind_eq_ok declared
      obtain ⟨declarations, behind, declared⟩ := exists_of_bind_eq_ok declared
      have whole : declaration?.toList ++ declarations = before ++ declaration :: after :=
        Except.ok.inj declared
      -- The declaration is that of the first entry, or stands among those behind it.
      cases declaration? with
      | none =>
          obtain rfl : declarations = before ++ declaration :: after := whole
          obtain ⟨earlier, entry, later, rfl, found⟩ := inductionHypothesis behind
          exact ⟨first :: earlier, entry, later, rfl, found⟩
      | some made =>
          cases before with
          | nil =>
              obtain ⟨rfl, rfl⟩ := List.cons.inj whole
              exact ⟨[], first, rest, rfl, here, behind⟩
          | cons _ before =>
              obtain ⟨-, rfl⟩ := List.cons.inj whole
              obtain ⟨earlier, entry, later, rfl, found⟩ := inductionHypothesis behind
              exact ⟨first :: earlier, entry, later, rfl, found⟩

/-- An entry has a selector only if a declaration of the list has it. -/
theorem entrySelector_ne_of_ofEntries {declarations : List Declaration}
    (declared : ofEntries entries = .ok declarations)
    (noneHas : ∀ declaration ∈ declarations, declaration.selector ≠ selector) :
    ∀ entry ∈ entries, entrySelector entry ≠ .ok (some selector) := by
  have read := areRead_ofEntries entries
  rw [declared] at read
  cases read with
  | declared _ all =>
      intro entry isEntry hasSelector
      obtain ⟨declaration, made, isSelector⟩ := entrySelector_eq_some_iff.1 hasSelector
      exact noneHas declaration ((all _).2 ⟨entry, isEntry, made⟩) isSelector

end Declaration

namespace Standard

open Declaration (IsLastWith IsOfKind signatureOf)

variable {selector text : Text} {declarations : List Declaration} {standard : Standard}

/-- A selector is named by the last declaration that has it. -/
theorem exists_of_get?_namesOf
    (named : Keyed.get? selector (namesOf declarations) = some text) :
    ∃ before declaration after, declarations = before ++ declaration :: after ∧
      declaration.selector = selector ∧ declaration.signature.text = text ∧
      ∀ later ∈ after, later.selector ≠ selector := by
  obtain ⟨left, right, isPairs, isLast⟩ := Keyed.get?_ofList_eq_some_iff.1 named
  obtain ⟨before, rest, rfl, -, isRest⟩ := List.map_eq_append_iff.1 isPairs
  obtain ⟨declaration, after, rfl, isPair, rfl⟩ := List.map_eq_cons_iff.1 isRest
  obtain ⟨isSelector, isText⟩ := Prod.mk.inj isPair
  refine ⟨before, declaration, after, rfl, isSelector, isText, fun later isLater same => ?_⟩
  apply isLast
  rw [List.map_map]
  exact List.mem_map.2 ⟨later, isLater, same⟩

/-- A text that declarations put under a selector is one of which that is the selector. -/
theorem isSelectorOf_of_get?_namesOf
    (encodable : ∀ declaration ∈ declarations, declaration.signature.isEncodable = true)
    (named : Keyed.get? selector (namesOf declarations) = some text) :
    ∃ kind : DeclarationKind, kind.IsSelectorOf selector text := by
  obtain ⟨before, declaration, after, rfl, rfl, rfl, -⟩ := exists_of_get?_namesOf named
  have isDeclaration : declaration ∈ before ++ declaration :: after := by simp
  exact ⟨_, Declaration.isSelectorOf_text (encodable declaration isDeclaration)⟩

/-- A text that a standard made of ABIs puts under a selector is the signature of the last entry
with this selector in its widest tier, and is one of which that is the selector. -/
theorem exists_of_get?_names_of_ofAbis {name : Text} {min full max : Json}
    (made : ofAbis name min full max = .ok standard)
    (named : Keyed.get? selector standard.names = some text) :
    ∃ entries entry kind, max = .arr entries ∧ IsLastWith selector entries entry ∧
      IsOfKind kind entry ∧ (signatureOf entry.membersOrNone).map Signature.text = .ok text ∧
      kind.IsSelectorOf selector text := by
  -- Only a widest tier that was given as a list names anything.
  have isNamed : (Keyed.get? selector standard.names).isSome = true := by
    rw [named]
    rfl
  obtain ⟨⟨entries, rfl⟩, -⟩ := (isSome_get?_names_of_ofAbis made selector).1 isNamed
  obtain ⟨-, declarations, declared, areNames⟩ := exists_declarations_of_ofAbis made
  rw [areNames] at named
  obtain ⟨before, declaration, after, rfl, rfl, rfl, isLast⟩ := exists_of_get?_namesOf named
  obtain ⟨earlier, entry, later, isList, isDeclared, declaredLater⟩ :=
    Declaration.exists_of_ofEntries_eq_append declared
  obtain ⟨isOfKind, shown, encodable⟩ := Declaration.declares_of_ofEntry isDeclared
  have isLastWith : IsLastWith declaration.selector entries entry :=
    ⟨earlier, later, isList,
      Declaration.entrySelector_eq_some_iff.2 ⟨declaration, isDeclared, rfl⟩,
      Declaration.entrySelector_ne_of_ofEntries declaredLater isLast⟩
  exact ⟨entries, entry, declaration.kind, rfl, isLastWith, isOfKind, shown,
    Declaration.isSelectorOf_text encodable⟩

/-- A standard given in layers names selectors by the declarations of all its layers. -/
theorem names_ofLayers (name : Text) (core canonical extensions : List Declaration) :
    (ofLayers name core canonical extensions).names =
      namesOf (core ++ canonical ++ extensions) :=
  rfl

end Standard

namespace Registry

open Declaration (IsLastWith IsOfKind signatureOf)

variable {registry : Registry} {tiers : List TierAbis} {selector text : Text}

/-- The text of a selector is one that a standard puts under its spelling. -/
theorem exists_of_describe (described : registry.describe selector = some text) :
    ∃ standard ∈ registry.standards,
      Keyed.get? (Selector.ofText selector) standard.names = some text :=
  List.exists_of_findSome?_eq_some described

/-- The bundled standards name selectors by declarations that have bytes. -/
theorem exists_declarations_bundled {standard : Standard}
    (isStandard : standard ∈ bundled.standards) :
    ∃ declarations, standard.names = Standard.namesOf declarations ∧
      ∀ declaration ∈ declarations, declaration.signature.isEncodable = true := by
  simp only [bundled, List.mem_cons, List.not_mem_nil, or_false] at isStandard
  rcases isStandard with rfl | rfl | rfl
  · exact ⟨_, Standard.names_ofLayers _ _ _ _, by decide +kernel⟩
  · exact ⟨_, Standard.names_ofLayers _ _ _ _, by decide +kernel⟩
  · exact ⟨_, Standard.names_ofLayers _ _ _ _, by decide +kernel⟩

/-- In a registry that was built from the ABIs of tiers, the text that describes a selector is the
signature of the last entry with this selector in the widest tier of some standard, and the spelling
of the selector is cut from the hash of this text without its spaces: four bytes of the hash for a
function, and all of them for an event. All texts in the bundled registry are hashed to their
selectors too. -/
theorem describe_hashes (isBuilt : registry.IsBuiltFrom tiers) :
    (∀ selector text, registry.describe selector = some text →
      ∃ tier ∈ tiers, ∃ entries entry kind, tier.max = .arr entries ∧
        IsLastWith (Selector.ofText selector) entries entry ∧ IsOfKind kind entry ∧
        (signatureOf entry.membersOrNone).map Signature.text = .ok text ∧
        kind.IsSelectorOf (Selector.ofText selector) text) ∧
    ∀ selector text, bundled.describe selector = some text →
      ∃ kind : DeclarationKind, kind.IsSelectorOf (Selector.ofText selector) text := by
  constructor
  · intro selector text described
    obtain ⟨standard, isStandard, named⟩ := exists_of_describe described
    obtain ⟨tier, isTier, made⟩ := isBuilt.exists_tier isStandard
    obtain ⟨entries, entry, kind, isList, isLast, isOfKind, shown, isSelector⟩ :=
      Standard.exists_of_get?_names_of_ofAbis (eq_ok_of_mapError_eq_ok made) named
    exact ⟨tier, isTier, entries, entry, kind, isList, isLast, isOfKind, shown, isSelector⟩
  · intro selector text described
    obtain ⟨standard, isStandard, named⟩ := exists_of_describe described
    obtain ⟨declarations, areNames, encodable⟩ := exists_declarations_bundled isStandard
    rw [areNames] at named
    exact Standard.isSelectorOf_of_get?_namesOf encodable named

/-- The tiers of two standards. The widest tier of the first lists one selector twice, under a name
that ends in a space at last; the second has the same selector. -/
def overwrittenNames : List TierAbis :=
  let spaced := .obj [("type", .str "function"), ("name", .str "f ")]
  let plain := .obj [("type", .str "function"), ("name", .str "f")]
  [⟨"t", .arr [plain], .arr [plain], .arr [plain, spaced]⟩,
   ⟨"u", .arr [plain], .arr [plain], .arr [plain]⟩]

/-- The text that was put under a selector last hides both others, and is hashed to it as well. -/
theorem describe_hashes_overwrittenNames :
    ∃ registry, IsBuiltFrom registry overwrittenNames ∧
      registry.describe "0x26121FF0" = some "f ()" ∧
      ∃ kind : DeclarationKind, kind.IsSelectorOf "26121ff0" "f ()" := by
  have computed : (ofAbis overwrittenNames).toOption.map (·.describe "0x26121FF0") =
      some (some ("f ()" : Text)) := by decide +kernel
  obtain ⟨registry, isRegistry, described⟩ := Option.map_eq_some_iff.1 computed
  have isBuilt : IsBuiltFrom registry overwrittenNames := .abis (eq_ok_of_toOption isRegistry)
  obtain ⟨own, -⟩ := describe_hashes isBuilt
  obtain ⟨-, -, -, -, kind, -, -, -, -, isSelector⟩ := own _ _ described
  have isSpelling : Selector.ofText "0x26121FF0" = ("26121ff0" : Text) := by decide
  exact ⟨registry, isBuilt, described, kind, isSpelling ▸ isSelector⟩

end Registry

end TokenLens
