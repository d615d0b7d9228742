import Cosigner.Proofs.Client.Cache
import Mathlib.Data.List.Induction

/-!
# The History of a Cache

What a cache holds is all that it knows of its past, and whoever trusts a key out
of it trusts that past. So the past is written down here, as a list of what
happened: an entry was reused, a document was fetched at a time, an origin was
forgotten. Whether a lookup reuses or fetches shows in what it reads. The rest of
the list follows from the operations, without looking at the entries.

The cache holds nothing else than this list says. An origin has
an entry exactly if some fetch of it brought a key, and the entry is what the last
such fetch brought, unless the origin was forgotten since. A fetch that fails is
part of the list and has no part in this: neither is the failure remembered, nor
does it take away what was there. `CacheEvent.Settles` names the two kinds of
events that do have a part. One operation adds one event, so all this is shown
for one operation and carried along a run.

## Main definitions

* `CacheOperation`, `CacheEvent`: What is done to a cache, and what happens then.
* `ClientCache.apply`, `ClientCache.applyAll`: One operation, and a run of them.
* `LastStored`: What was stored last for an origin and not forgotten since.
* `ClientCache.AnswersBy`: What comes of a lookup, given the past.
* `ClientCache.Follows`: A cache that holds what its past says.

## Theorems

* `ClientCache.find?_apply`: What an operation does to an entry.
* `ClientCache.applyAll_append`: A run after a run.
* `lastStored_append`: What one more event does to what was stored last.
* `ClientCache.find?_applyAll`: A cache holds what was stored last.
* `ClientCache.applyAll_follows`: Every run leaves a cache that follows from it.
-/

namespace Cosigner

/-- Something that is done to a cache. -/
inductive CacheOperation where
  /-- An origin is looked up. The clock says `now` before a fetch and `stored` after
      it, and a fetch would bring `answer`. -/
  | lookUp (origin : String) (now stored : UInt64) (answer : Except String ClientDocument)
  /-- An origin is forgotten. -/
  | invalidate (origin : String)

/-- The origin that an operation is about. -/
def CacheOperation.origin : CacheOperation → String
  | .lookUp origin _ _ _ => origin
  | .invalidate origin => origin

/-- Something that happened to a cache. -/
inductive CacheEvent where
  /-- An entry was reused. -/
  | reused (origin : String)
  /-- A document was asked for, and the answer came at a time. -/
  | fetched (origin : String) (stored : UInt64) (answer : Except String ClientDocument)
  /-- An origin was forgotten. -/
  | forgotten (origin : String)

namespace CacheEvent

/-- An event stores an entry: a document with a key was fetched. -/
def Stores (e : CacheEvent) (origin : String) (entry : ClientIdentity) : Prop :=
  e = .fetched origin entry.fetchedAt (.ok ⟨some entry.key, entry.trustedDevices⟩)

/-- An event settles what is held for an origin: it stores an entry, or the origin
    was forgotten. -/
def Settles (e : CacheEvent) (origin : String) : Prop :=
  e = .forgotten origin ∨ ∃ entry, e.Stores origin entry

end CacheEvent

/-- An entry is the last one that was stored for an origin, and the origin was not
    forgotten since. -/
def LastStored (events : List CacheEvent) (origin : String) (entry : ClientIdentity) : Prop :=
  ∃ before e after, events = before ++ e :: after ∧ e.Stores origin entry ∧
    ∀ later ∈ after, ¬ later.Settles origin

namespace ClientCache

/-- The event that an operation comes to, and the cache after it. A lookup that reads
    nothing has reused an entry. -/
def apply (lifetime : UInt64) (c : ClientCache) : CacheOperation → CacheEvent × ClientCache
  | .lookUp origin now stored answer =>
    let (query, after) := c.lookUp lifetime (fun _ => answer) now stored origin
    (if query.reads.isEmpty then .reused origin else .fetched origin stored answer, after)
  | .invalidate origin => (.forgotten origin, c.invalidate origin)

/-- The events that operations come to one after another, and the cache after them. -/
def applyAll (lifetime : UInt64) :
    ClientCache → List CacheOperation → List CacheEvent × ClientCache
  | c, [] => ([], c)
  | c, op :: ops =>
    let (own, between) := c.apply lifetime op
    let (others, after) := applyAll lifetime between ops
    (own :: others, after)

/-- What comes of a lookup of an origin in a cache, given what happened to the cache. -/
structure AnswersBy (lifetime : UInt64) (events : List CacheEvent) (c : ClientCache)
    (origin : String) (now stored : UInt64) (answer : Except String ClientDocument)
    (outcome : Query ClientIdentity × ClientCache) : Prop where
  -- Nothing is fetched exactly if there is an entry that is young enough; if the
  -- clock has gone back, it is of age zero.
  unfetched : outcome.1.reads = [] ↔ ∃ entry, c.find? origin = some entry ∧
    now.toNat - entry.fetchedAt.toNat < lifetime.toNat
  -- Then the answer is the entry that was stored last, and the cache stays.
  reused : outcome.1.reads = [] →
    ∃ entry, LastStored events origin entry ∧ outcome = (pure entry, c)
  -- Otherwise the document of the origin is asked for, once.
  asked : outcome.1.reads ≠ [] → outcome.1.reads = [.document origin]
  -- Without a key in the answer the lookup is refused, and the cache stays.
  refused : outcome.1.reads ≠ [] → (¬ ∃ key devices, answer = .ok ⟨some key, devices⟩) →
    outcome.2 = c ∧ outcome.1.result = .error (.client
      (match answer with
        | .error reason => .unreachable origin reason
        | .ok _ => .keyless origin))
  -- With a key in it, the answer becomes the entry of the origin, and of no other.
  replaced : ∀ entry, outcome.1.reads ≠ [] →
    (CacheEvent.fetched origin stored answer).Stores origin entry →
    outcome.1.result = .ok entry ∧ ∀ other,
      outcome.2.find? other = if other = origin then some entry else c.find? other

/-- A cache that holds what its past says, and goes on accordingly. -/
structure Follows (lifetime : UInt64) (events : List CacheEvent) (c : ClientCache) : Prop where
  -- An entry is the last one that was stored and not forgotten since.
  stored : ∀ origin entry, c.find? origin = some entry ↔ LastStored events origin entry
  -- Every lookup is answered from it or by a fetch.
  answers : ∀ origin now stored answer, c.AnswersBy lifetime events origin now stored answer
    (c.lookUp lifetime (fun _ => answer) now stored origin)
  -- An operation on one origin leaves the others alone.
  apart : ∀ (op : CacheOperation) origin, origin ≠ op.origin →
    (c.apply lifetime op).2.find? origin = c.find? origin

end ClientCache

namespace CacheEvent

-- Reusing settles nothing. Forgetting does, and so does fetching, if an identity comes
-- of it.
theorem not_settles_reused (reused origin : String) :
    ¬ (CacheEvent.reused reused).Settles origin := by
  simp only [Settles, Stores, reduceCtorEq, exists_false, or_self, not_false_eq_true]

theorem settles_forgotten (forgotten origin : String) :
    (CacheEvent.forgotten forgotten).Settles origin ↔ origin = forgotten := by
  simp only [Settles, Stores, CacheEvent.forgotten.injEq, reduceCtorEq, exists_false, or_false,
    eq_comm (a := origin)]

/-- A fetch stores what identifies the client in the answer, for its origin. -/
theorem stores_fetched (fetched : String) (stored : UInt64)
    (answer : Except String ClientDocument) (origin : String) (entry : ClientIdentity) :
    (CacheEvent.fetched fetched stored answer).Stores origin entry ↔
      origin = fetched ∧ ClientCache.identityOf fetched stored answer = .ok entry := by
  rw [ClientCache.identityOf_eq_ok, Stores, CacheEvent.fetched.injEq, eq_comm (a := origin)]
  refine and_congr_right fun _ => ?_
  constructor
  · intro h
    rcases h with ⟨rfl, hanswer⟩
    exact ⟨entry.key, entry.trustedDevices, hanswer, rfl⟩
  · intro h
    rcases h with ⟨key, devices, hanswer, rfl⟩
    exact ⟨rfl, hanswer⟩

theorem settles_fetched (fetched : String) (stored : UInt64)
    (answer : Except String ClientDocument) (origin : String) :
    (CacheEvent.fetched fetched stored answer).Settles origin ↔
      origin = fetched ∧ ∃ entry, ClientCache.identityOf fetched stored answer = .ok entry := by
  simp only [Settles, reduceCtorEq, false_or, stores_fetched, exists_and_left]

end CacheEvent

namespace ClientCache

theorem find?_invalidate (c : ClientCache) (origin other : String) :
    (c.invalidate origin).find? other = if other = origin then none else c.find? other := by
  by_cases h : other = origin
  · rw [if_pos h, find?, List.lookup_eq_none_iff]
    intro entry hentry
    have hkept := (List.mem_filter.mp hentry).2
    rw [decide_eq_true_iff] at hkept
    rw [h]
    exact bne_iff_ne.mpr (Ne.symm hkept)
  · rw [if_neg h, c.find?_invalidate_of_ne origin other h]

section LookUp

variable (lifetime : UInt64) (c : ClientCache) (origin : String) (now stored : UInt64)
  (answer : Except String ClientDocument)

/-- A lookup of what is fresh reuses it and changes nothing. -/
theorem apply_of_fresh (entry : ClientIdentity)
    (h : c.fresh? lifetime now origin = some entry) :
    c.apply lifetime (.lookUp origin now stored answer) = (.reused origin, c) := by
  simp only [apply, lookUp, h]
  rfl

/-- A lookup of what is not fresh fetches, and stores what is fetched if it is an
    identity. -/
theorem apply_of_stale (h : c.fresh? lifetime now origin = none) :
    c.apply lifetime (.lookUp origin now stored answer) = (.fetched origin stored answer,
      match identityOf origin stored answer with
      | .ok entry => c.insert origin entry
      | .error _ => c) := by
  simp only [apply, lookUp, h]
  cases identityOf origin stored answer with
  | ok entry => rfl
  | error r => rfl

end LookUp

/-- What an operation does to an entry. -/
theorem find?_apply (lifetime : UInt64) (c : ClientCache) (op : CacheOperation) (origin : String)
    (entry : ClientIdentity) :
    (c.apply lifetime op).2.find? origin = some entry ↔
      (c.apply lifetime op).1.Stores origin entry ∨
        ¬ (c.apply lifetime op).1.Settles origin ∧ c.find? origin = some entry := by
  cases op with
  | invalidate forgotten =>
      have hstores : ¬ (CacheEvent.forgotten forgotten).Stores origin entry :=
        fun h => CacheEvent.noConfusion h
      rw [apply, find?_invalidate, CacheEvent.settles_forgotten, or_iff_right hstores]
      by_cases h : origin = forgotten
      · simp only [h, if_true, reduceCtorEq, not_true, false_and]
      · simp only [h, if_false, not_false_eq_true, true_and]
  | lookUp lookedUp now stored answer =>
      cases hfresh : c.fresh? lifetime now lookedUp with
      | some found =>
          have hstores : ¬ (CacheEvent.reused lookedUp).Stores origin entry :=
            fun h => CacheEvent.noConfusion h
          rw [c.apply_of_fresh lifetime lookedUp now stored answer found hfresh,
            or_iff_right hstores, and_iff_right (CacheEvent.not_settles_reused lookedUp origin)]
      | none =>
          rw [c.apply_of_stale lifetime lookedUp now stored answer hfresh,
            CacheEvent.stores_fetched, CacheEvent.settles_fetched]
          cases identityOf lookedUp stored answer with
          | error r => simp only [reduceCtorEq, and_false, exists_false, not_false_eq_true,
              true_and, false_or]
          | ok found =>
              simp only [find?_insert, Except.ok.injEq, exists_eq', and_true]
              by_cases h : origin = lookedUp
              · simp only [h, if_true, Option.some.injEq, true_and, not_true, false_and, or_false]
              · simp only [h, if_false, false_and, not_false_eq_true, true_and, false_or]

/-- A history goes on where an earlier one ended. -/
theorem applyAll_append (lifetime : UInt64) (c : ClientCache) (ops ops' : List CacheOperation) :
    c.applyAll lifetime (ops ++ ops') =
      ((c.applyAll lifetime ops).1 ++ ((c.applyAll lifetime ops).2.applyAll lifetime ops').1,
        ((c.applyAll lifetime ops).2.applyAll lifetime ops').2) := by
  induction ops generalizing c with
  | nil => rfl
  | cons op ops ih => simp only [List.cons_append, applyAll, ih]

end ClientCache

/-- One more event is the last that was stored, or leaves what was, unless it settles
    the matter otherwise. -/
theorem lastStored_append (events : List CacheEvent) (e : CacheEvent) (origin : String)
    (entry : ClientIdentity) :
    LastStored (events ++ [e]) origin entry ↔
      e.Stores origin entry ∨ ¬ e.Settles origin ∧ LastStored events origin entry := by
  constructor
  · intro h
    rcases h with ⟨before, e', after, hsplit, hstores, hlater⟩
    rcases List.eq_nil_or_concat after with rfl | ⟨after, last, rfl⟩
    · rcases List.append_inj' hsplit rfl with ⟨_, hlast⟩
      rw [List.singleton_inj.mp hlast]
      exact .inl hstores
    · rw [List.concat_eq_append, ← List.cons_append, ← List.append_assoc] at hsplit
      rcases List.append_inj' hsplit rfl with ⟨rfl, hlast⟩
      rw [List.concat_eq_append, List.forall_mem_append, List.forall_mem_singleton] at hlater
      rw [List.singleton_inj.mp hlast]
      exact .inr ⟨hlater.2, before, e', after, rfl, hstores, hlater.1⟩
  · intro h
    rcases h with hstores | ⟨hsettles, before, e', after, rfl, hstores, hlater⟩
    · exact ⟨events, e, [], rfl, hstores, List.forall_mem_nil _⟩
    · refine ⟨before, e', after ++ [e], by rw [List.append_assoc, List.cons_append], hstores, ?_⟩
      exact List.forall_mem_append.mpr ⟨hlater, List.forall_mem_singleton.mpr hsettles⟩

namespace ClientCache

/-- What a cache holds after any run of operations is what was stored last. -/
theorem find?_applyAll (lifetime : UInt64) (ops : List CacheOperation) (origin : String)
    (entry : ClientIdentity) :
    (empty.applyAll lifetime ops).2.find? origin = some entry ↔
      LastStored (empty.applyAll lifetime ops).1 origin entry := by
  -- The induction takes the last operation off the run.
  induction ops using List.reverseRecOn with
  | nil =>
      have hnone : ¬ LastStored [] origin entry := by
        intro h
        rcases h with ⟨before, e, after, hsplit, _⟩
        exact absurd hsplit.symm (List.append_ne_nil_of_right_ne_nil _ (List.cons_ne_nil _ _))
      have hempty : empty.find? origin = none := rfl
      rw [applyAll, hempty]
      exact iff_of_false (by simp only [reduceCtorEq, not_false_eq_true]) hnone
  | append_singleton ops op ih =>
      rw [applyAll_append]
      exact (find?_apply lifetime _ op origin entry).trans
        ((or_congr_right (and_congr_right fun _ => ih)).trans
          (lastStored_append _ _ origin entry).symm)

/-- A lookup is answered from what was stored last, or by a fetch. -/
theorem lookUp_answersBy (lifetime : UInt64) (events : List CacheEvent) (c : ClientCache)
    (hstored : ∀ origin entry, c.find? origin = some entry → LastStored events origin entry)
    (origin : String) (now stored : UInt64) (answer : Except String ClientDocument) :
    c.AnswersBy lifetime events origin now stored answer
      (c.lookUp lifetime (fun _ => answer) now stored origin) := by
  unfold lookUp
  cases hfresh : c.fresh? lifetime now origin with
  | some entry =>
      have hreads : (pure entry : Query ClientIdentity).reads = [] := rfl
      have hyoung := (c.fresh?_eq_some lifetime now origin entry).mp hfresh
      exact {
        unfetched := iff_of_true hreads ⟨entry, hyoung⟩
        reused := fun _ => ⟨entry, hstored origin entry hyoung.1, rfl⟩
        asked := fun h => absurd hreads h
        refused := fun h => absurd hreads h
        replaced := fun _ h => absurd hreads h }
  | none =>
      have hold := (c.fresh?_eq_none lifetime now origin).mp hfresh
      have hnone : ¬ ∃ entry, c.find? origin = some entry ∧
          now.toNat - entry.fetchedAt.toNat < lifetime.toNat := by
        rintro ⟨entry, hentry, hyoung⟩
        exact absurd hyoung (Nat.not_lt.mpr (hold entry hentry))
      have hasks : ∀ x : Except Refusal ClientIdentity,
          (Query.ask (.document origin) x).reads ≠ [] := fun _ => List.cons_ne_nil _ _
      cases hidentity : identityOf origin stored answer with
      | ok entry =>
          exact {
            unfetched := iff_of_false (hasks _) hnone
            reused := fun h => absurd h (hasks _)
            asked := fun _ => rfl
            refused := fun _ hkeyless => by
              rcases (identityOf_eq_ok origin stored answer entry).mp hidentity with
                ⟨key, devices, hanswer, _⟩
              exact absurd ⟨key, devices, hanswer⟩ hkeyless
            replaced := fun found _ hstores => by
              have hsame := ((CacheEvent.stores_fetched _ _ _ _ _).mp hstores).2
              rw [hidentity, Except.ok.injEq] at hsame
              rw [hsame]
              exact ⟨rfl, fun other => c.find?_insert origin found other⟩ }
      | error r =>
          exact {
            unfetched := iff_of_false (hasks _) hnone
            reused := fun h => absurd h (hasks _)
            asked := fun _ => rfl
            refused := fun _ hkeyless => by
              refine ⟨rfl, ?_⟩
              rcases answer with reason | ⟨_ | key, devices⟩
              · rw [← hidentity]
                rfl
              · rw [← hidentity]
                rfl
              · exact absurd ⟨key, devices, rfl⟩ hkeyless
            replaced := fun found _ hstores => by
              have hfound := ((CacheEvent.stores_fetched _ _ _ _ _).mp hstores).2
              rw [hidentity] at hfound
              exact absurd hfound (by simp only [reduceCtorEq, not_false_eq_true]) }

/-- An operation leaves all origins alone but its own. -/
theorem find?_apply_of_ne (lifetime : UInt64) (c : ClientCache) (op : CacheOperation)
    (origin : String) (h : origin ≠ op.origin) :
    (c.apply lifetime op).2.find? origin = c.find? origin := by
  cases op with
  | invalidate forgotten => exact c.find?_invalidate_of_ne forgotten origin h
  | lookUp lookedUp now stored answer =>
      cases hfresh : c.fresh? lifetime now lookedUp with
      | some entry => rw [c.apply_of_fresh lifetime lookedUp now stored answer entry hfresh]
      | none =>
          rw [c.apply_of_stale lifetime lookedUp now stored answer hfresh]
          cases identityOf lookedUp stored answer with
          | error r => rfl
          | ok entry => exact (c.find?_insert lookedUp entry origin).trans (if_neg h)

/-- Whatever the lifetime, the readings of the clock and the answers to the fetches
    are: at any point of any run, the cache holds what was stored last, and the next
    operation goes by that. -/
theorem applyAll_follows (lifetime : UInt64) (ops : List CacheOperation) :
    (empty.applyAll lifetime ops).2.Follows lifetime (empty.applyAll lifetime ops).1 where
  stored := find?_applyAll lifetime ops
  answers := lookUp_answersBy lifetime _ _ fun origin entry =>
    (find?_applyAll lifetime ops origin entry).mp
  apart := find?_apply_of_ne lifetime _

-- A refresh fails, and the entry that was too old stays. When the clock has gone back it
-- is young again, until the origin is forgotten.
example :
    let document : Except String ClientDocument := .ok ⟨some "key", none⟩
    (empty.applyAll 10 [.lookUp "a" 0 5 document, .lookUp "a" 15 16 (.error "down"),
      .lookUp "a" 3 4 (.error "down"), .invalidate "a", .lookUp "a" 3 4 (.error "down")]).1 =
    [.fetched "a" 5 document, .fetched "a" 16 (.error "down"), .reused "a", .forgotten "a",
      .fetched "a" 4 (.error "down")] := by
  rfl

end ClientCache

end Cosigner
