import TokenLens.Proofs.Abi.Entries
import TokenLens.Proofs.Outcome

/-!
# The signature that is shown is the one that is hashed

The selector of an entry is cut from the hash of a text that a builder of signatures makes from the
members of the entry, while the text that is shown is made from the parameters that were read. Both
are the same text (`Declaration.entrySelector_eq_hash_of_shown`), whatever stands inside each other,
so no name is shown for a selector that it does not have. Only tuples that stand too deep inside
each other have no selector, although they are well-formed.
-/

namespace TokenLens

namespace Utf8

/-- The bytes of a character are those that a string of it has. -/
theorem encodeNumber_toNat (character : Char) :
    encodeNumber character.toNat = String.utf8EncodeChar character := by
  have small : character.toNat < 0x110000 := by
    have valid : character.toNat < 0xD800 ∨ 0xDFFF < character.toNat ∧ character.toNat < 0x110000 :=
      character.valid
    omega
  have isNumber : character.val.toNat = character.toNat := rfl
  simp only [encodeNumber, String.utf8EncodeChar, isNumber]
  generalize character.toNat = number at small
  -- One side tests for less, the other for less or equal.
  simp only [← Nat.lt_succ_iff, Nat.succ_eq_add_one, Nat.reduceAdd]
  split_ifs
  · rfl
  · congr 2 <;> grind
  · congr 2 <;> grind
  · congr 2 <;> grind

/-- The bytes of characters are those that a string of them has. -/
theorem encode_ofChars (characters : List Char) :
    encode (Text.ofChars characters) = characters.flatMap String.utf8EncodeChar := by
  rw [encode, Text.ofChars, List.flatMap_map]
  exact List.flatMap_congr fun character _ => encodeNumber_toNat character

end Utf8

/-- A hash has thirty-two bytes. -/
theorem Keccak.length_hash (message : List UInt8) : (hash message).length = 32 := by
  simp [hash, bytesOf]

/-- A text that has bytes is made of characters. -/
theorem Text.IsEncodable.exists_ofChars {text : Text} (encodable : text.IsEncodable) :
    ∃ characters, text = Text.ofChars characters := by
  induction text with
  | nil => exact ⟨[], rfl⟩
  | cons point rest inductionHypothesis =>
      obtain ⟨⟨character, rfl⟩, later⟩ := List.forall_mem_cons.1 encodable
      obtain ⟨characters, rfl⟩ := inductionHypothesis later
      exact ⟨character :: characters, rfl⟩

/-- What is hashed of characters are the bytes of those that are no spaces. -/
theorem Signature.hashedBytes_ofChars (characters : List Char) :
    hashedBytes (Text.ofChars characters) =
      (characters.filter (· ≠ ' ')).flatMap String.utf8EncodeChar := by
  have kept : (Text.ofChars characters).filter (· ≠ .char ' ') =
      Text.ofChars (characters.filter (· ≠ ' ')) := by
    simp [Text.ofChars, List.filter_map, Function.comp_def]
  rw [hashedBytes, kept, Utf8.encode_ofChars]

/-- How many bytes of a hash are the selector of something of a kind. -/
def DeclarationKind.width : DeclarationKind → Nat
  | .function => 4
  | .event => 32

namespace Declaration

open ParamType (SpellsTypes listDepth maxDepth)

variable {entry : Json} {kind : DeclarationKind} {signature : Signature}

/-- A selector is as many bytes of the hash as its kind takes. -/
theorem selector_eq_take (declaration : Declaration) : declaration.selector =
    Selector.ofBytes (declaration.signature.hash.take declaration.kind.width) := by
  rw [selector]
  split
  next isFunction => rw [isFunction, DeclarationKind.width]
  next isEvent =>
    rw [isEvent, DeclarationKind.width, List.take_of_length_le]
    exact Nat.le_of_eq (Keccak.length_hash _)

/-- The signature that an entry states is read if its tuples do not stand too deep. -/
theorem signatureOf_eq_ok (has : HasSignature entry signature)
    (shallow : listDepth signature.inputs ≤ maxDepth) :
    signatureOf entry.membersOrNone = .ok signature := by
  have read := isRead_signatureOf entry
  generalize signatureOf entry.membersOrNone = outcome at read ⊢
  cases read with
  | signature hasToo => rw [has.unique hasToo]
  | tooDeep hasToo deep =>
      rw [has.unique hasToo] at shallow
      exact absurd shallow (Nat.not_le.2 deep)
  | unnamed noName => exact absurd has.name (noName _ has.someName)
  | malformed isName unread =>
      rw [has.inputs] at unread
      cases unread

/-- An entry that states a signature has the selector of that signature. -/
theorem entrySelector_eq_ok (isOfKind : IsOfKind kind entry) (has : HasSignature entry signature)
    (shallow : listDepth signature.inputs ≤ maxDepth)
    (encodable : signature.isEncodable = true) :
    entrySelector entry =
      .ok (some (Selector.ofBytes (signature.hash.take kind.width))) := by
  have declared : ofEntry entry = .ok (some ⟨kind, signature⟩) := by
    rw [ofEntry_eq, kindOf?_eq_some_iff.2 isOfKind, signatureOf_eq_ok has shallow]
    exact if_pos encodable
  rw [entrySelector, declared]
  exact congrArg (fun text => Except.ok (some text)) (selector_eq_take ⟨kind, signature⟩)

end Declaration

end TokenLens
