import TokenLens.Abi.Selector
import TokenLens.Abi.Signature
import TokenLens.Breakdown
import TokenLens.Json.Display

/-!
# Declarations

An ABI is a list of entries. The entries that declare a function or an event have a selector; all
others are passed over, whatever they hold. A declaring entry must have a name, and inputs in which
every tuple says what its components are, at any depth.
-/

namespace TokenLens

/-- Why an entry is no declaration. -/
inductive EntryError where
  | unnamed (entryType : Json)
  | malformedInputs (name : Text)
  | broken (cause : Breakdown)
deriving Inhabited

/-- What is said about an entry that is no declaration. -/
def EntryError.message : EntryError → Text
  | .unnamed entryType => "ABI " ++ entryType.display ++ " entry has no name"
  | .malformedInputs name => "ABI entry " ++ Text.quoted name ++ " has malformed inputs"
  | .broken cause => cause.message

namespace ParamType

/-- The word that the type of a tuple starts with. -/
def tupleWord : Text := "tuple"

mutual

/-- The parameters that a document lists. -/
def ofInputs? : Json → Option (List ParamType)
  | .arr items => ofItems? items
  | _ => none
termination_by structural document => document

/-- The parameters of a list, each of which must be well formed. -/
def ofItems? : List Json → Option (List ParamType)
  | [] => some []
  | item :: rest =>
      match ofParameter? item, ofItems? rest with
      | some type, some types => some (type :: types)
      | _, _ => none
termination_by structural items => items

/-- The type of one parameter. -/
def ofParameter? : Json → Option ParamType
  | .obj members =>
      match Keyed.get? "type" members with
      | some (.str type) =>
          if tupleWord.isPrefixOf type then
            match ofComponents? members with
            | some components => some (.tuple components (type.drop tupleWord.length))
            | none => none
          else some (.elementary type)
      | _ => none
  | _ => none
termination_by structural document => document

/-- The components among the members of a parameter. -/
def ofComponents? : List (Text × Json) → Option (List ParamType)
  | [] => none
  | (key, value) :: rest => if key = "components" then ofInputs? value else ofComponents? rest
termination_by structural members => members

end

end ParamType

/-- What kind of thing a declaration names. -/
inductive DeclarationKind where
  | function
  | event
deriving DecidableEq, Repr

/-- A function or an event that a contract declares. -/
structure Declaration where
  kind : DeclarationKind
  signature : Signature

namespace Declaration

/-- The selector of a declaration: the first four bytes of the hash for a function, all of them for
an event. -/
def selector (declaration : Declaration) : Text :=
  match declaration.kind with
  | .function => Selector.ofBytes (declaration.signature.hash.take 4)
  | .event => Selector.ofBytes declaration.signature.hash

/-- The kind of declaration that the type of an entry names. -/
def kindOf? : Option Json → Option DeclarationKind
  | some (.str text) =>
      if text = "function" then some .function else if text = "event" then some .event else none
  | _ => none

/-- The fault of an entry that has no name, for its type. -/
def unnamedError : Option Json → EntryError
  | some entryType => .unnamed entryType
  | none => .broken .missingType

/-- The signature that the members of an entry state. Without inputs there are no parameters. -/
def signatureOf (members : List (Text × Json)) : Except EntryError Signature :=
  match Keyed.get? "name" members with
  | some (.str name) =>
      if name.isEmpty then .error (unnamedError (Keyed.get? "type" members))
      else match ParamType.ofInputs? ((Keyed.get? "inputs" members).getD (.arr [])) with
        | some inputs =>
            if ParamType.maxDepth < ParamType.listDepth inputs then .error (.broken .tooDeep)
            else .ok ⟨name, inputs⟩
        | none => .error (.malformedInputs name)
  | _ => .error (unnamedError (Keyed.get? "type" members))

/-- The declaration that an entry makes, if it makes one. Its signature has to have a hash. -/
def ofEntry : Json → Except EntryError (Option Declaration)
  | .obj members =>
      match kindOf? (Keyed.get? "type" members) with
      | some kind => do
          let signature ← signatureOf members
          if signature.isEncodable then return some ⟨kind, signature⟩
          else .error (.broken .unencodable)
      | none => .ok none
  | _ => .ok none

/-- The declarations that entries make, in order; the first fault ends the reading. -/
def ofEntries : List Json → Except EntryError (List Declaration)
  | [] => .ok []
  | entry :: rest => do
      let declaration? ← ofEntry entry
      let declarations ← ofEntries rest
      return declaration?.toList ++ declarations

/-- The selector of an entry, if it declares something. -/
def entrySelector (entry : Json) : Except EntryError (Option Text) :=
  (ofEntry entry).map (·.map selector)

end Declaration

end TokenLens
