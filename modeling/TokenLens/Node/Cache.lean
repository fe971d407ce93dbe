import TokenLens.Node.Query

/-!
# Remembered answers

Each of the three reads has a cache of its own. A cache remembers the answers to the queries used
last, most recent first, and no more than its capacity. Failures are never remembered.
-/

namespace TokenLens

/-- The number of answers that a cache remembers. -/
def cacheCapacity : Nat := 256

/-- Answers to queries, the one used last in front. -/
structure Cache where
  entries : List (Query × Json)

namespace Cache

/-- A cache that remembers nothing. -/
def empty : Cache := ⟨[]⟩

/-- The entries for other queries than the given one. -/
def others (query : Query) (cache : Cache) : List (Query × Json) :=
  cache.entries.filter fun entry => entry.1 ≠ query

/-- The answer to a query, with the cache after its use. -/
def consult (query : Query) (cache : Cache) : Option (Json × Cache) :=
  (cache.entries.find? fun entry => entry.1 = query).map fun entry =>
    (entry.2, ⟨entry :: cache.others query⟩)

/-- The cache after the answer to a query arrived. -/
def remember (query : Query) (answer : Json) (cache : Cache) : Cache :=
  ⟨((query, answer) :: cache.others query).take cacheCapacity⟩

end Cache

/-- The caches of the three reads. -/
structure Caches where
  code : Cache
  storage : Cache
  call : Cache

namespace Caches

/-- Caches that remember nothing. -/
def empty : Caches := ⟨.empty, .empty, .empty⟩

/-- The cache that a query uses. -/
def cacheFor (query : Query) (caches : Caches) : Cache :=
  match query.read with
  | .code _ => caches.code
  | .storage _ _ => caches.storage
  | .call _ _ => caches.call

/-- Put another cache in the place of the one that a query uses. -/
def replaceFor (query : Query) (cache : Cache) (caches : Caches) : Caches :=
  match query.read with
  | .code _ => { caches with code := cache }
  | .storage _ _ => { caches with storage := cache }
  | .call _ _ => { caches with call := cache }

/-- The remembered answer to a query, with the caches after its use. -/
def consult (query : Query) (caches : Caches) : Option (Json × Caches) :=
  ((caches.cacheFor query).consult query).map fun (answer, cache) =>
    (answer, caches.replaceFor query cache)

/-- The caches after the answer to a query arrived. -/
def remember (query : Query) (answer : Json) (caches : Caches) : Caches :=
  caches.replaceFor query ((caches.cacheFor query).remember query answer)

end Caches

end TokenLens
