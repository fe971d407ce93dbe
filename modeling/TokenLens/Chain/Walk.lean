import TokenLens.Proxy.Target
import TokenLens.Verdict.Classify

/-!
# Walks along proxies

A contract whose own code fits no standard is judged together with the contracts that it delegates
to, those that they delegate to, and so on. The walk goes depth first, visits each contract once,
and visits no more contracts than its bound allows, the first one always included. A link to a
contract beyond the bound is kept but not followed. In the end the code of all visited contracts is
joined and judged once.
-/

namespace TokenLens

/-- A contract and one of its targets. -/
structure Link where
  source : Text
  target : Text
deriving DecidableEq, Repr

/-- A contract that was reached, with the code that counts for it. -/
structure Visit where
  address : Text
  code : Code
deriving DecidableEq, Repr

/-- How far a walk has come: the visited contracts in the order of their discovery, the links in the
order in which they were found, the contracts whose targets are still to be found, and whether some
link was not followed. -/
structure Walk where
  visited : List Visit
  links : List Link
  pending : List Visit
  truncated : Bool
deriving DecidableEq, Repr

/-- Where a walk starts, what bounds it and which node it asks. -/
structure WalkPlan where
  root : Text
  bound : Int
  url : Text
deriving DecidableEq, Repr

namespace Walk

/-- A walk that has come no further than its first contract. -/
def start (visit : Visit) : Walk :=
  ⟨[visit], [], [visit], false⟩

/-- Whether a contract was visited. -/
def hasVisited (walk : Walk) (address : Text) : Bool :=
  walk.visited.any fun visit => visit.address = address

/-- A walk with one more link. -/
def addLink (walk : Walk) (link : Link) : Walk :=
  { walk with links := walk.links ++ [link] }

/-- A walk with one more contract, which comes before all others whose targets are still to be
found. -/
def visit (walk : Walk) (visit : Visit) : Walk :=
  { walk with visited := walk.visited ++ [visit], pending := visit :: walk.pending }

/-- The code of all visited contracts, joined in the order of their discovery. -/
def joinedCode (walk : Walk) : Code :=
  ⟨walk.visited.flatMap (·.code.bytes)⟩

end Walk

namespace WalkPlan

/-- The code of a target, empty if the node fails to tell. -/
def fetch (plan : WalkPlan) (target : Text) : Lookup Code := do
  match ← Lookup.tryRead ⟨plan.url, .code target⟩ with
  | .ok bytecode => Lookup.codeOf bytecode
  | .error error =>
      Lookup.takeNote (.targetUnavailable target error)
      return .empty

/-- Follow the link from a contract to a target: pass over it if the target was visited, leave it if
the bound is reached, visit the target otherwise. -/
def follow (plan : WalkPlan) (source : Text) (walk : Walk) (target : Text) : Lookup Walk := do
  let walk := walk.addLink ⟨source, target⟩
  if walk.hasVisited target then return walk
  else if plan.bound ≤ walk.visited.length then
    Lookup.takeNote (.boundReached plan.root plan.bound target)
    return { walk with truncated := true }
  else
    let code ← plan.fetch target
    Lookup.takeNote (.linkFollowed source target)
    return walk.visit ⟨target, code⟩

/-- Follow the links from a contract to several targets. -/
def followAll (plan : WalkPlan) (source : Text) : List Text → Walk → Lookup Walk
  | [], walk => return walk
  | target :: rest, walk => do
      let walk ← plan.follow source walk (Text.lower target)
      plan.followAll source rest walk

/-- Find and follow the links of a contract. -/
def expand (plan : WalkPlan) (visit : Visit) (walk : Walk) : Lookup Walk := do
  let targets ← Proxy.targetsOfCode plan.url visit.address visit.code
  plan.followAll visit.address targets walk

/-- Expand pending contracts, the one found last first, for at most the given number of turns. -/
def continueFor (plan : WalkPlan) : Nat → Walk → Lookup Walk
  | 0, walk => return walk
  | turns + 1, walk =>
      match walk.pending with
      | [] => return walk
      | next :: rest => do
          let walk ← plan.expand next { walk with pending := rest }
          plan.continueFor turns walk

/-- The most contracts that a walk visits. Each is expanded once, so this many turns suffice. -/
def mostVisits (plan : WalkPlan) : Nat :=
  max 1 plan.bound.toNat

/-- The whole walk from a contract with the given code. -/
def walk (plan : WalkPlan) (code : Code) : Lookup Walk :=
  plan.continueFor plan.mostVisits (.start ⟨plan.root, code⟩)

end WalkPlan

/-- What a walk leads to. -/
structure Resolution where
  address : Text
  standard : Option Text
  links : List Link
  visited : List Text
  truncated : Bool
deriving DecidableEq, Repr

namespace Walk

/-- What a walk leads to when its contracts are compared with a registry. -/
def resolution (walk : Walk) (root : Text) (registry : Registry) : Resolution :=
  ⟨root, registry.bestByPoints (Text.mentions walk.joinedCode.text), walk.links,
   walk.visited.map (·.address), walk.truncated⟩

end Walk

namespace Chain

/-- The bound of a walk where none is given. -/
def defaultBound : Int := 16

/-- Walk from a contract whose code is at hand and judge what was visited. -/
def resolve (url address : Text) (code : Code) (bound : Int) (registry : Registry) :
    Lookup Resolution := do
  let root := Text.lower address
  let walk ← WalkPlan.walk ⟨root, bound, url⟩ code
  return walk.resolution root registry

/-- The code of a contract as it was handed over, or as the node knows it. -/
def codeAt (url address : Text) : Option Json → Lookup Code
  | some bytecode => Lookup.codeOf bytecode
  | none => do Lookup.codeOf (← Lookup.read ⟨url, .code address⟩)

/-- The label of a contract, from its own code if that fits a standard, else from a walk. -/
def standardAt (url address : Text) (bytecode : Option Json) (bound : Int)
    (registry : Registry) : Lookup (Option Text) := do
  let code ← codeAt url address bytecode
  match registry.bestByPoints (Text.mentions code.text) with
  | some label => return some label
  | none => return (← resolve url address code bound registry).standard

end Chain

end TokenLens
