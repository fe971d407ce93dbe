import TokenLens.Proofs.Node.Reply

/-!
# What a cache still knows

A session of reads and removals of all that is remembered, before nodes that may reply differently
each time. What the caches know at any point is told by the past alone: the cache of a function
knows the queries that were answered last, as many different ones as its capacity, each with its
last answer, and nothing from before the last removal (`Cache.Recalls`). So a read sends its request
exactly if its query is not among these, and what does not succeed changes nothing
(`CacheSession.read_recalls`).

Whether a query was answered by the node or from the cache makes no difference to its recency.
-/

namespace TokenLens

/-! ## Different items of a list -/

section Distinct

variable {α : Type} [DecidableEq α]

/-- To leave items out and then count each once is to count each once and then leave them out. -/
theorem filter_eraseDups (keep : α → Bool) (items : List α) :
    items.eraseDups.filter keep = (items.filter keep).eraseDups := by
  match items with
  | [] => rfl
  | first :: rest =>
      have later := filter_eraseDups keep (rest.filter fun item => !item == first)
      rw [List.eraseDups_cons, List.filter_cons, List.filter_cons]
      split
      next isKept =>
        rw [later, List.eraseDups_cons, List.filter_filter, List.filter_filter]
        simp only [Bool.and_comm]
      next isLeftOut =>
        rw [later, List.filter_filter]
        refine congrArg List.eraseDups (List.filter_congr fun item _ => ?_)
        -- What is kept is not the first item anyway.
        by_cases isFirst : item = first
        · simp [isFirst, isLeftOut]
        · simp [isFirst]
termination_by items.length
decreasing_by exact Nat.lt_succ_of_le (List.length_filter_le _ _)

/-- Counted once, no item stands twice. -/
theorem nodup_eraseDups (items : List α) : items.eraseDups.Nodup := by
  match items with
  | [] => exact .nil
  | first :: rest =>
      rw [List.eraseDups_cons, List.nodup_cons]
      refine ⟨fun isLater => ?_, nodup_eraseDups _⟩
      have isKept := (List.mem_filter.1 (List.mem_eraseDups.1 isLater)).2
      simp at isKept
termination_by items.length
decreasing_by exact Nat.lt_succ_of_le (List.length_filter_le _ _)

/-- Where no item stands twice, one item less among the first is one more from behind them. -/
theorem take_filter_take {items : List α} (distinct : items.Nodup) (item : α) (count : Nat) :
    ((items.take (count + 1)).filter (· ≠ item)).take count =
      (items.filter (· ≠ item)).take count := by
  induction items generalizing count with
  | nil => rfl
  | cons first rest inductionHypothesis =>
      obtain ⟨isNew, distinctRest⟩ := List.nodup_cons.1 distinct
      rw [List.take_succ_cons]
      by_cases isFirst : first = item
      · subst isFirst
        have others : ∀ part : List α, part.Sublist rest → part.filter (· ≠ first) = part := by
          intro part isPart
          refine List.filter_eq_self.2 fun other isOther => ?_
          have isRest := isPart.subset isOther
          exact decide_eq_true fun same => isNew (same ▸ isRest)
        rw [List.filter_cons_of_neg (by simp), List.filter_cons_of_neg (by simp),
          others _ (List.take_sublist _ _), others _ (.refl _), List.take_take, Nat.min_self]
      · rw [List.filter_cons_of_pos (by simpa using isFirst),
          List.filter_cons_of_pos (by simpa using isFirst)]
        cases count with
        | zero => rfl
        | succ count =>
            rw [List.take_succ_cons, List.take_succ_cons, inductionHypothesis distinctRest count]

end Distinct

namespace Cache

/-! ## One cache -/

/-- What a cache knows of answered queries, the last one first: the queries answered last, each
once and no more than its capacity, and the last answer to each. -/
structure Recalls (answered : List (Query × Json)) (cache : Cache) : Prop where
  queries : cache.entries.map (·.1) = (answered.map (·.1)).eraseDups.take cacheCapacity
  answers : ∀ entry ∈ cache.entries, (answered.find? fun use => use.1 = entry.1) = some entry

variable {answered : List (Query × Json)} {cache : Cache} {query : Query} {answer : Json}

/-- A cache that remembers nothing knows what there is to know where nothing was answered. -/
theorem recalls_empty : empty.Recalls [] :=
  ⟨rfl, List.forall_mem_nil _⟩

/-- The queries of the other entries are the other queries. -/
theorem map_others : (cache.others query).map (·.1) =
    (cache.entries.map (·.1)).filter (· ≠ query) := by
  rw [others, List.filter_map]
  rfl

/-- A cache answers no query but those of its entries. -/
theorem consult_eq_none_iff :
    cache.consult query = none ↔ query ∉ cache.entries.map (·.1) := by
  rw [consult, Option.map_eq_none_iff, List.find?_eq_none, List.mem_map, not_exists]
  refine forall_congr' fun entry => ?_
  rw [not_and, decide_eq_true_iff]

namespace Recalls

variable (recalls : cache.Recalls answered)
include recalls

/-- A cache that an answer is put into knows that answer as the last one. -/
theorem remember : (cache.remember query answer).Recalls ((query, answer) :: answered) where
  queries := by
    have shifted := take_filter_take (nodup_eraseDups (answered.map (·.1))) query 255
    have whole : (cache.entries.map (·.1)) = (answered.map (·.1)).eraseDups.take (255 + 1) :=
      recalls.queries
    rw [Cache.remember, List.map_take, List.map_cons, map_others, whole, List.map_cons,
      List.eraseDups_cons, cacheCapacity, List.take_succ_cons, List.take_succ_cons, shifted,
      filter_eraseDups]
    refine congrArg (fun queries : List Query => query :: queries.eraseDups.take 255) ?_
    exact List.filter_congr fun other _ => decide_not
  answers := by
    intro entry isEntry
    rcases List.mem_cons.1 (List.mem_of_mem_take isEntry) with rfl | isOther
    · exact List.find?_cons_of_pos (by simp)
    · obtain ⟨isEntry, isDifferent⟩ := List.mem_filter.1 isOther
      rw [List.find?_cons_of_neg (by simpa using Ne.symm (of_decide_eq_true isDifferent))]
      exact recalls.answers entry isEntry

/-- What a cache answers is the last answer, and to use it is to put it in once more. -/
theorem consult {after : Cache} (hit : cache.consult query = some (answer, after)) :
    (answered.find? fun use => use.1 = query) = some (query, answer) ∧
      after = cache.remember query answer := by
  obtain ⟨⟨asked, stated⟩, isFound, same⟩ := Option.map_eq_some_iff.1 hit
  obtain ⟨rfl, rfl⟩ := Prod.mk.inj same
  have isEntry := List.mem_of_find?_eq_some isFound
  obtain rfl : asked = query := by simpa using List.find?_some isFound
  refine ⟨recalls.answers _ isEntry, ?_⟩
  -- The entry moves to the front, so the cache does not outgrow its capacity.
  have fewer : (cache.others asked).length < cache.entries.length := by
    refine List.length_filter_lt_length_iff_exists.2 ⟨_, isEntry, ?_⟩
    simp
  have bounded : cache.entries.length ≤ cacheCapacity := by
    have counted := congrArg List.length recalls.queries
    rw [List.length_map, List.length_take] at counted
    omega
  have fits : ((asked, stated) :: cache.others asked).length ≤ cacheCapacity := by
    rw [List.length_cons]
    omega
  exact congrArg Cache.mk (List.take_of_length_le fits).symm

end Recalls

end Cache

/-! ## The caches of a session -/

/-- A use of the caches: a read, before a node that would reply as given at that moment, or the
removal of all that is remembered. -/
inductive CacheUse where
  | read (node : Query → PostOutcome) (query : Query)
  | clear

/-- What was seen of a use. -/
inductive CacheEvent where
  | read (query : Query) (outcome : Except LookupError Json)
  | cleared

/-- A session that uses caches: what was seen of it, the last event first, and what the caches
hold. -/
structure CacheSession where
  past : List CacheEvent
  caches : Caches

namespace CacheEvent

/-- The queries of a method that were answered since the last removal, the last one first, with
their answers. -/
def answered (method : String) : List CacheEvent → List (Query × Json)
  | [] => []
  | .cleared :: _ => []
  | .read _ (.error _) :: earlier => answered method earlier
  | .read query (.ok answer) :: earlier =>
      if query.read.method = method then (query, answer) :: answered method earlier
      else answered method earlier

/-- The queries of a method that were answered last, each once, and no more than a cache can
hold. -/
def recent (method : String) (past : List CacheEvent) : List Query :=
  (((answered method past).map (·.1)).eraseDups).take cacheCapacity

/-- The answer of the last successful read of a query. -/
def lastAnswer? (query : Query) (past : List CacheEvent) : Option Json :=
  ((answered query.read.method past).find? fun use => use.1 = query).map (·.2)

end CacheEvent

namespace CacheSession

open CacheEvent

/-- A session of which nothing was seen yet. -/
def start : CacheSession := ⟨[], .empty⟩

/-- A session after one more use of the caches. -/
def next (session : CacheSession) : CacheUse → CacheSession
  | .read node query =>
      let exchange := Dialogue.run node (Lookup.read query) session.caches
      ⟨.read query exchange.value :: session.past, exchange.caches⟩
  | .clear => ⟨.cleared :: session.past, .empty⟩

/-- A session of several uses. -/
def after (uses : List CacheUse) : CacheSession :=
  uses.foldl next start

end CacheSession

namespace Caches

variable {caches : Caches} {query other : Query}

/-- Queries of one method use one cache. -/
theorem cacheFor_congr (same : other.read.method = query.read.method) :
    caches.cacheFor other = caches.cacheFor query := by
  obtain ⟨url, read⟩ := query
  obtain ⟨otherUrl, otherRead⟩ := other
  cases read <;> cases otherRead <;> simp_all [NodeRead.method, cacheFor]

/-- The cache that was put in the place of another is the one that is used from then on. -/
theorem cacheFor_replaceFor (cache : Cache) :
    (caches.replaceFor query cache).cacheFor query = cache := by
  obtain ⟨url, read⟩ := query
  cases read <;> rfl

/-- The caches of other methods stay in their places. -/
theorem cacheFor_replaceFor_of_ne (cache : Cache)
    (different : other.read.method ≠ query.read.method) :
    (caches.replaceFor query cache).cacheFor other = caches.cacheFor other := by
  obtain ⟨url, read⟩ := query
  obtain ⟨otherUrl, otherRead⟩ := other
  cases read <;> cases otherRead <;> simp_all [NodeRead.method, cacheFor, replaceFor]

end Caches

namespace CacheSession

open CacheEvent

/-- Each cache of a session knows what was answered to the queries that use it. -/
def Recalls (session : CacheSession) : Prop :=
  ∀ query, (session.caches.cacheFor query).Recalls (answered query.read.method session.past)

variable {session : CacheSession} {node : Query → PostOutcome} {query : Query} {answer : Json}

/-- Before anything was seen nothing is known. -/
theorem recalls_start : start.Recalls := by
  rintro ⟨url, read⟩
  cases read <;> exact Cache.recalls_empty

namespace Recalls

variable (recalls : session.Recalls)
include recalls

/-- A session in which an answer was put into its cache knows that answer. -/
theorem remember : (⟨.read query (.ok answer) :: session.past,
    session.caches.remember query answer⟩ : CacheSession).Recalls := by
  intro other
  rw [answered]
  by_cases same : query.read.method = other.read.method
  · rw [if_pos same, ← Caches.cacheFor_congr same, Caches.remember, Caches.cacheFor_replaceFor,
      ← same]
    exact (recalls query).remember
  · rw [if_neg same, Caches.remember, Caches.cacheFor_replaceFor_of_ne _ (Ne.symm same)]
    exact recalls other

/-- What the caches answer is the last answer, and to use it is to put it in once more. -/
theorem consult {after : Caches} (hit : session.caches.consult query = some (answer, after)) :
    lastAnswer? query session.past = some answer ∧ after = session.caches.remember query answer := by
  obtain ⟨⟨stated, cache⟩, cacheHit, same⟩ := Option.map_eq_some_iff.1 hit
  obtain ⟨rfl, rfl⟩ := Prod.mk.inj same
  obtain ⟨isLast, rfl⟩ := (recalls query).consult cacheHit
  exact ⟨by rw [lastAnswer?, isLast, Option.map_some], rfl⟩

/-- The caches answer exactly the recent queries. -/
theorem consult_eq_none_iff :
    session.caches.consult query = none ↔ query ∉ recent query.read.method session.past := by
  rw [Caches.consult, Option.map_eq_none_iff, Cache.consult_eq_none_iff, (recalls query).queries,
    recent]

/-- Sessions go on knowing what was answered. -/
theorem next (use : CacheUse) : (session.next use).Recalls := by
  cases use with
  | clear =>
      rintro ⟨url, read⟩
      cases read <;> exact Cache.recalls_empty
  | read node query =>
      rw [CacheSession.next, Lookup.run_read]
      split
      next answer after hit =>
        obtain ⟨-, rfl⟩ := recalls.consult hit
        exact recalls.remember
      next miss =>
        split
        next answer isAnswer => exact recalls.remember
        next fault isFault => exact recalls

end Recalls

/-- Every session knows what was answered. -/
theorem recalls_after (uses : List CacheUse) : (after uses).Recalls := by
  suffices onwards : ∀ session : CacheSession, session.Recalls →
      (uses.foldl CacheSession.next session).Recalls from onwards start recalls_start
  induction uses with
  | nil => exact fun session recalls => recalls
  | cons use rest inductionHypothesis =>
      exact fun session recalls => inductionHypothesis _ (recalls.next use)

/-- After any session, and before any node, a read sends its request exactly if its query is not
among the recent ones of its method, as many as a cache can hold. Without a request it returns the
last answer to the query. A read that does not succeed leaves the caches as they were, and no read
touches the cache of another method. -/
theorem read_recalls (uses : List CacheUse) (node : Query → PostOutcome) (query : Query) :
    let session := after uses
    let exchange := Dialogue.run node (Lookup.read query) session.caches
    exchange.sent = (if query ∈ recent query.read.method session.past then [] else [query]) ∧
    (exchange.sent = [] →
      ∃ answer, lastAnswer? query session.past = some answer ∧ exchange.value = .ok answer) ∧
    (∀ error, exchange.value = .error error → exchange.caches = session.caches) ∧
    ∀ other : Query, other.read.method ≠ query.read.method →
      exchange.caches.cacheFor other = session.caches.cacheFor other := by
  intro session exchange
  have recalls : session.Recalls := recalls_after uses
  have comes : exchange = _ := Lookup.run_read node query session.caches
  cases found : session.caches.consult query with
  | some hit =>
      obtain ⟨answer, caches⟩ := hit
      obtain ⟨isLast, rfl⟩ := recalls.consult found
      have isRecent : query ∈ recent query.read.method session.past := by
        refine Decidable.not_not.1 fun isOld => ?_
        rw [recalls.consult_eq_none_iff.2 isOld] at found
        cases found
      rw [found] at comes
      rw [comes, if_pos isRecent]
      exact ⟨rfl, fun _ => ⟨answer, isLast, rfl⟩, nofun,
        fun other different => Caches.cacheFor_replaceFor_of_ne _ different⟩
  | none =>
      rw [found] at comes
      rw [if_neg (recalls.consult_eq_none_iff.1 found)]
      cases replied : (node query).result with
      | ok answer =>
          rw [replied] at comes
          rw [comes]
          exact ⟨rfl, nofun, nofun,
            fun other different => Caches.cacheFor_replaceFor_of_ne _ different⟩
      | error fault =>
          rw [replied] at comes
          rw [comes]
          exact ⟨rfl, nofun, fun _ _ => rfl, fun _ _ => rfl⟩

/-- The code of a contract is asked for twice, with a failed read between them of the same address
in a capital letter. The first answer stays: it is returned without a request even when the node
fails, while the other address is asked for in vain. After a removal the contract is asked for
again. -/
theorem read_recalls_firstAnswer :
    let small : Query := ⟨"http://node", .code "0xa1"⟩
    let capital : Query := ⟨"http://node", .code "0xA1"⟩
    let replying (body : String) : Query → PostOutcome := fun _ => .answered 200 body
    let failing : Query → PostOutcome := fun _ => .failed
    let uses : List CacheUse :=
      [.read (replying "\x7b\"result\": \"0x01\"\x7d") small, .read failing capital,
       .read (replying "\x7b\"result\": \"0x02\"\x7d") small]
    let exchange (uses : List CacheUse) (query : Query) :=
      Dialogue.run failing (Lookup.read query) (after uses).caches
    (exchange uses small).sent = [] ∧
    (exchange uses small).value.toOption.map Json.display = some ("0x01" : Text) ∧
    (exchange uses capital).sent = [capital] ∧
    (exchange uses capital).caches = (after uses).caches ∧
    (exchange (uses ++ [.clear]) small).sent = [small] := by
  intro small capital replying failing uses exchange
  obtain ⟨sentSmall, isLast, -⟩ := read_recalls uses failing small
  obtain ⟨sentCapital, -, unchanged, -⟩ := read_recalls uses failing capital
  obtain ⟨sentAgain, -⟩ := read_recalls (uses ++ [.clear]) failing small
  have isRecent : small ∈ recent "eth_getCode" (after uses).past := by decide +kernel
  have isNew : capital ∉ recent "eth_getCode" (after uses).past := by decide +kernel
  have isForgotten : small ∉ recent "eth_getCode" (after (uses ++ [.clear])).past := by
    decide +kernel
  have noRequest : (exchange uses small).sent = [] := sentSmall.trans (if_pos isRecent)
  have known : (lastAnswer? small (after uses).past).map Json.display = some ("0x01" : Text) := by
    decide +kernel
  have fails : (exchange uses capital).value = .error (.rpc .requestFailed) :=
    Lookup.value_run_read ((recalls_after uses).consult_eq_none_iff.2 isNew)
  obtain ⟨answer, isAnswer, isValue⟩ := isLast noRequest
  refine ⟨noRequest, ?_, sentCapital.trans (if_neg isNew), unchanged _ fails,
    sentAgain.trans (if_neg isForgotten)⟩
  rw [← known, isAnswer]
  exact congrArg (fun outcome => outcome.toOption.map Json.display) isValue

end CacheSession

end TokenLens
