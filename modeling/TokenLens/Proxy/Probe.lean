import TokenLens.Node.Dialogue
import TokenLens.Proxy.Address
import TokenLens.Proxy.Finding

/-!
# Probes of a live contract

Where code does not name the contract it delegates to, the live contract is probed in seven places:
three slots that hold the address, three getters that return it, and a beacon that knows it. To
*gather* is to run every probe and keep each distinct address in the order of the probes. To *race*
is to take the first address that a probe finds. A probe that fails is noted and passed over.
-/

namespace TokenLens

/-- A view function that returns the address of an implementation. -/
structure Getter where
  name : Text
  data : Text
deriving DecidableEq, Repr

namespace Getter

/-- The getter of most proxies, and the first to ask a beacon for. -/
def implementation : Getter := ⟨"implementation()", "0x5c60da1b"⟩

/-- The getter of Gnosis Safe proxies. -/
def masterCopy : Getter := ⟨"masterCopy()", "0xa619486e"⟩

/-- The getter of Compound. -/
def comptroller : Getter := ⟨"comptrollerImplementation()", "0xbb82aa5e"⟩

/-- The getter that a beacon is asked for when it does not answer the first. -/
def childImplementation : Getter := ⟨"childImplementation()", "0xda525716"⟩

end Getter

/-- A place in which a live contract may keep the address it delegates to. -/
inductive Probe where
  | slot (stored : StorageSlot)
  | getter (view : Getter)
  | beacon
deriving DecidableEq, Repr

/-- What a probe finds. -/
inductive ProbeOutcome where
  | found (address : Text)
  | failed (reason : Text)
  | broken (cause : Breakdown)

namespace ProbeOutcome

/-- What the answer to the last query of a probe means. -/
def ofAnswer : Except ReadFault Json → ProbeOutcome
  | .ok value =>
      match Address.ofJson value with
      | .ok address => .found address
      | .error fault => .failed fault.message
  | .error (.rpc error) => .failed error.message
  | .error (.broken cause) => .broken cause

/-- The address that a probe found. -/
def address? : ProbeOutcome → Option Text
  | .found address => some address
  | .failed _ => none
  | .broken _ => none

end ProbeOutcome

namespace Probe

/-- All probes, in their order. -/
def all : List Probe :=
  [.slot .implementation, .slot .zeppelin, .slot .proxiable,
   .getter .implementation, .getter .masterCopy, .getter .comptroller, .beacon]

/-- The name of a probe in notes. -/
def name : Probe → Text
  | .slot stored => stored.name
  | .getter view => view.name
  | .beacon => StorageSlot.beacon.name

/-- Ask the beacon at the address held for the implementation; another getter is tried when a call
fails as callers expect. -/
def askBeacon (url held : Text) : Dialogue ProbeOutcome := do
  match ← Lookup.attempt ⟨url, .call held Getter.implementation.data⟩ with
  | .error (.rpc _) =>
      return .ofAnswer (← Lookup.attempt ⟨url, .call held Getter.childImplementation.data⟩)
  | answer => return .ofAnswer answer

/-- Run a probe of the contract at an address. -/
def run (url address : Text) : Probe → Dialogue ProbeOutcome
  | .slot stored => do
      return .ofAnswer (← Lookup.attempt ⟨url, .storage address stored.word⟩)
  | .getter view => do
      return .ofAnswer (← Lookup.attempt ⟨url, .call address view.data⟩)
  | .beacon => do
      match ProbeOutcome.ofAnswer
          (← Lookup.attempt ⟨url, .storage address StorageSlot.beacon.word⟩) with
      | .found held => askBeacon url held
      | outcome => return outcome

/-- Run probes one after the other and keep what each of them finds. -/
def runAll (url address : Text) : List Probe → Dialogue (List (Probe × ProbeOutcome))
  | [] => return []
  | probe :: rest => do
      let outcome ← probe.run url address
      let outcomes ← runAll url address rest
      return (probe, outcome) :: outcomes

/-- The distinct addresses among outcomes, in order. What failed is noted. -/
def collect (found : List Text) : List (Probe × ProbeOutcome) → Lookup (List Text)
  | [] => return found
  | (_, .found address) :: rest =>
      collect (if found.contains address then found else found ++ [address]) rest
  | (probe, .failed reason) :: rest => do
      Lookup.takeNote (.probeFailed probe.name reason)
      collect found rest
  | (_, .broken cause) :: _ => throw (.broken cause)

/-- Run every probe and keep the distinct addresses. -/
def gather (url address : Text) : Lookup (List Text) := do
  collect [] (← (runAll url address all : Dialogue _))

/-- Run probes until one of them finds an address. -/
def race (url address : Text) : List Probe → Lookup (Option Text)
  | [] => return none
  | probe :: rest => do
      match ← (probe.run url address : Dialogue _) with
      | .found target =>
          Lookup.takeNote (.probeResolved probe.name target)
          return some target
      | .failed reason =>
          Lookup.takeNote (.probeFailed probe.name reason)
          race url address rest
      | .broken cause => throw (.broken cause)

end Probe

end TokenLens
