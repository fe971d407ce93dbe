import TokenLens.Proxy.Slot
import TokenLens.Text.Search

/-!
# How code delegates

Code that never executes `DELEGATECALL` is no proxy. Code that does is one of four kinds:

- a *minimal* proxy is the clone template around the address it delegates to;
- a *direct* proxy pushes the address it delegates to in some other way;
- an *implementation* proxy holds the selector of `implementation()`, so the live contract can be
  asked;
- any other is known to delegate and nothing more.
-/

namespace TokenLens

/-- The kinds of proxies. -/
inductive ProxyKind where
  | minimal (target : Text)
  | direct (target : Text)
  | implementation
  | delegatecall
deriving DecidableEq, Repr

namespace ProxyKind

/-- The name under which a kind is reported. -/
def name : ProxyKind → String
  | .minimal _ => "minimal"
  | .direct _ => "direct"
  | .implementation => "implementation"
  | .delegatecall => "delegatecall"

/-- The address that code of a kind names itself. -/
def target? : ProxyKind → Option Text
  | .minimal target => some target
  | .direct target => some target
  | .implementation => none
  | .delegatecall => none

end ProxyKind

/-- What code tells about its delegation: the kind, and the known slots that it pushes. -/
structure Finding where
  kind : ProxyKind
  slots : List Text
deriving DecidableEq, Repr

namespace Finding

/-- The address that the code names itself. -/
def target? (finding : Finding) : Option Text :=
  finding.kind.target?

/-- A finding as a document. -/
def toJson (finding : Finding) : Json :=
  .obj
    [("kind", .str finding.kind.name),
     ("target", (finding.target?.map Json.str).getD .null),
     ("slots", .arr (finding.slots.map .str))]

end Finding

namespace Instruction

/-- Whether an instruction is `DELEGATECALL`. -/
def delegates (instruction : Instruction) : Bool :=
  instruction.opcode = 0xF4

/-- Whether bytes can be the address of a contract: twenty of them, neither all zero nor all
ones. -/
def isPlausibleAddress (bytes : List UInt8) : Bool :=
  bytes.length = 20 && bytes ≠ List.replicate 20 0x00 && bytes ≠ List.replicate 20 0xFF

/-- The first address that is pushed as a literal. -/
def literalTarget? (instructions : List Instruction) : Option Text :=
  (instructions.find? fun instruction =>
      instruction.opcode = 0x73 && isPlausibleAddress instruction.operand).map
    fun instruction => "0x" ++ instruction.operandText

/-- The name of the known slot that an instruction pushes. -/
def slotName? (instruction : Instruction) : Option Text :=
  if instruction.opcode = 0x7F then (StorageSlot.ofOperand? instruction.operand).map (·.name)
  else none

/-- Texts in the order of their first arrival, each once. -/
def distinct (texts : List Text) : List Text :=
  texts.foldl (fun kept text => if kept.contains text then kept else kept ++ [text]) []

/-- The names of the known slots that are pushed, in the order of their first push. -/
def slotNames (instructions : List Instruction) : List Text :=
  distinct (instructions.filterMap slotName?)

end Instruction

namespace Code

/-- What stands before the address in the clone template. -/
def clonePrologue : Text := "363d3d373d3d3d363d73"

/-- What stands after the address in the clone template. -/
def cloneEpilogue : Text := "5af43d82803e903d91602b57fd5bf3"

/-- The selector of `implementation()`. -/
def implementationSelector : Text := "5c60da1b"

/-- Whether code starts and ends as the clone template does. -/
def isClone (code : Code) : Bool :=
  clonePrologue.isPrefixOf code.text && cloneEpilogue.isSuffixOf code.text

/-- Whether code executes `DELEGATECALL` anywhere. -/
def delegates (code : Code) : Bool :=
  code.instructions.any Instruction.delegates

/-- The kind of proxy that code which delegates is. -/
def proxyKind (code : Code) : ProxyKind :=
  match Instruction.literalTarget? code.instructions with
  | some target => if code.isClone then .minimal target else .direct target
  | none =>
      if Text.occursIn implementationSelector code.text then .implementation else .delegatecall

/-- What code tells about its delegation. -/
def finding? (code : Code) : Option Finding :=
  if code.delegates then some ⟨code.proxyKind, Instruction.slotNames code.instructions⟩
  else none

end Code

end TokenLens
