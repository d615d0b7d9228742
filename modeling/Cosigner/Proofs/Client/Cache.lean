import Cosigner.Client.Cache
import Cosigner.Proofs.Outcome

/-!
# Lookups Side by Side

Clients are looked up one after another, or side by side. Side by side means that
a lookup which has to fetch does not hold up the others: while it waits for its
document, others begin, find the cache as it is, and may ask for the same
document. When a document arrives it is stored, however late that is.

So the order of events is open, and with it how often a document is fetched and
when. What the cache says in the end is not. An origin is fetched if some lookup
of it could not have reused what the cache held in the beginning, and what is
stored for it is the document that is published there, if that has a key.
Neither depends on the order, because nothing else is stored in between. This is
what makes it sound to think of the lookups in the order in which they are
listed.

The times of fetching are left aside here, since these do depend on the order.

## Main definitions

* `LookUp`: An origin that is looked up, with the clock's readings.
* `ClientCache.lookUps`: Lookups one after another.
* `ClientCache.Agrees`: Caches that say the same about every origin.
* `ClientCache.Due`: An origin whose document has to be fetched.
* `LookingUp`, `LookingUp.Step`, `LookingUp.Run`: Lookups side by side.
* `LookingUp.Consistent`: What every step preserves.

## Theorems

* `ClientCache.find?_insert`: What is found after an entry was stored.
* `ClientCache.lookUps_append`: Lookups after lookups.
* `LookingUp.Step.consistent`: What is consistent stays so, step by step.
* `LookingUp.run_lookUps`: One after another is one way to go side by side.
* `LookingUp.Run.agrees`: Every other way leads to the same cache.
-/

namespace Cosigner

/-- An origin that is looked up, with the clock's readings before the fetch and
    after it. -/
structure LookUp where
  /-- The origin. -/
  origin : String
  /-- The time before. -/
  now : UInt64
  /-- The time after. -/
  stored : UInt64
  deriving DecidableEq

namespace ClientIdentity

/-- What is kept of a client, without the time of fetching. -/
def content (c : ClientIdentity) : String × Option (List String) :=
  (c.key, c.trustedDevices)

end ClientIdentity

namespace ClientCache

/-- Lookups one after another: what they read, and the cache that they leave. -/
def lookUps (lifetime : UInt64) (fetch : Fetcher) :
    ClientCache → List LookUp → List Read × ClientCache
  | c, [] => ([], c)
  | c, l :: ls =>
    let (own, between) := c.lookUp lifetime fetch l.now l.stored l.origin
    let (others, after) := lookUps lifetime fetch between ls
    (own.reads ++ others, after)

/-- Caches that say the same about every origin, the times of fetching aside. -/
def Agrees (c c' : ClientCache) : Prop :=
  ∀ origin, (c.find? origin).map (·.content) = (c'.find? origin).map (·.content)

/-- An origin whose document has to be fetched: some lookup of it finds no entry
    that may be reused. -/
def Due (c : ClientCache) (lifetime : UInt64) (ls : List LookUp) (origin : String) : Prop :=
  ∃ l ∈ ls, l.origin = origin ∧ c.fresh? lifetime l.now origin = none

/-- An answer makes an identity exactly if it has a key. -/
theorem identityOf_eq_ok (origin : String) (stored : UInt64)
    (answer : Except String ClientDocument) (identity : ClientIdentity) :
    identityOf origin stored answer = .ok identity ↔
      ∃ key devices, answer = .ok ⟨some key, devices⟩ ∧ identity = ⟨key, devices, stored⟩ := by
  rcases answer with reason | ⟨_ | key, devices⟩
  · simp only [identityOf, reduceCtorEq, false_and, exists_false]
  · simp only [identityOf, reduceCtorEq, Except.ok.injEq, ClientDocument.mk.injEq, false_and,
      exists_false]
  · simp only [identityOf, Except.ok.injEq, ClientDocument.mk.injEq, Option.some.injEq]
    constructor
    · rintro rfl
      exact ⟨key, devices, ⟨rfl, rfl⟩, rfl⟩
    · intro h
      rcases h with ⟨_, _, ⟨rfl, rfl⟩, rfl⟩
      rfl

-- An age that would be negative counts as zero.
theorem fresh?_eq_some (c : ClientCache) (lifetime now : UInt64) (origin : String)
    (entry : ClientIdentity) :
    c.fresh? lifetime now origin = some entry ↔
      c.find? origin = some entry ∧
        now.toNat - entry.fetchedAt.toNat < lifetime.toNat := by
  unfold fresh?
  rw [Option.filter_eq_some_iff, ClientIdentity.fresh, ClientIdentity.age, decide_eq_true_eq]

theorem fresh?_eq_none (c : ClientCache) (lifetime now : UInt64) (origin : String) :
    c.fresh? lifetime now origin = none ↔ ∀ entry, c.find? origin = some entry →
      lifetime.toNat ≤ now.toNat - entry.fetchedAt.toNat := by
  simp only [Option.eq_none_iff_forall_ne_some, ne_eq, fresh?_eq_some, not_and, Nat.not_lt]

-- Whether an entry may be reused depends on that entry alone.
theorem fresh?_congr (c c' : ClientCache) (lifetime now : UInt64) (origin : String)
    (h : c.find? origin = c'.find? origin) :
    c.fresh? lifetime now origin = c'.fresh? lifetime now origin := by
  rw [fresh?, fresh?, h]

-- Forgetting touches one origin.
theorem find?_invalidate_of_ne (c : ClientCache) (origin origin' : String) (h : origin' ≠ origin) :
    (c.invalidate origin).find? origin' = c.find? origin' := by
  rcases c with ⟨entries⟩
  simp only [find?, invalidate]
  induction entries with
  | nil => rfl
  | cons entry rest ih =>
      rcases entry with ⟨other, identity⟩
      by_cases hother : other = origin
      · -- This entry is dropped, and it is not the one that is asked for.
        have hmiss : (origin' == other) = false := by
          rw [hother]
          exact beq_eq_false_iff_ne.mpr h
        simp only [List.filter_cons, hother, ne_eq, not_true, decide_false, Bool.false_eq_true,
          if_false]
        rw [← hother, List.lookup_cons, hmiss, ← ih, hother]
      · simp only [List.filter_cons, ne_eq, hother, not_false_eq_true, decide_true, if_true,
          List.lookup_cons, ih]

/-- After an entry was stored, its origin has it and the others have theirs. -/
theorem find?_insert (c : ClientCache) (origin : String) (entry : ClientIdentity)
    (origin' : String) :
    (c.insert origin entry).find? origin' =
      if origin' = origin then some entry else c.find? origin' := by
  unfold find? insert
  rw [List.lookup_cons]
  by_cases h : origin' = origin
  · rw [if_pos h, beq_iff_eq.mpr h]
  · have hmiss : (origin' == origin) = false := beq_eq_false_iff_ne.mpr h
    rw [if_neg h, hmiss]
    exact c.find?_invalidate_of_ne origin origin' h

/-- Lookups in two batches are lookups in a row, on the cache that the first batch leaves.
    -/
theorem lookUps_append (lifetime : UInt64) (fetch : Fetcher) (c : ClientCache)
    (ls ls' : List LookUp) :
    c.lookUps lifetime fetch (ls ++ ls') =
      ((c.lookUps lifetime fetch ls).1 ++
        ((c.lookUps lifetime fetch ls).2.lookUps lifetime fetch ls').1,
        ((c.lookUps lifetime fetch ls).2.lookUps lifetime fetch ls').2) := by
  induction ls generalizing c with
  | nil => rfl
  | cons l ls ih =>
      simp only [List.cons_append, lookUps, ih, List.append_assoc]

end ClientCache

/-- Lookups under way. -/
structure LookingUp where
  /-- The cache that all of them share. -/
  cache : ClientCache
  /-- Those that have not begun. -/
  waiting : List LookUp
  /-- The origins whose documents are awaited, one for each lookup that does. -/
  fetching : List String

namespace LookingUp

variable (lifetime : UInt64) (fetch : Fetcher)

/-- What may happen next. Any lookup may begin, and any document may arrive. -/
inductive Step : LookingUp → LookingUp → Prop where
  -- A lookup begins and finds an entry that it may reuse.
  | hit (cache : ClientCache) (front : List LookUp) (l : LookUp) (back : List LookUp)
      (fetching : List String) (entry : ClientIdentity)
      (hfresh : cache.fresh? lifetime l.now l.origin = some entry) :
      Step ⟨cache, front ++ l :: back, fetching⟩ ⟨cache, front ++ back, fetching⟩
  -- A lookup begins, finds none, and asks for the document.
  | miss (cache : ClientCache) (front : List LookUp) (l : LookUp) (back : List LookUp)
      (fetching : List String) (hfresh : cache.fresh? lifetime l.now l.origin = none) :
      Step ⟨cache, front ++ l :: back, fetching⟩ ⟨cache, front ++ back, l.origin :: fetching⟩
  -- A document with a key arrives and is stored, at whatever time.
  | store (cache : ClientCache) (waiting : List LookUp) (front : List String) (origin : String)
      (back : List String) (stored : UInt64) (entry : ClientIdentity)
      (hdocument : ClientCache.identityOf origin stored (fetch origin) = .ok entry) :
      Step ⟨cache, waiting, front ++ origin :: back⟩
        ⟨cache.insert origin entry, waiting, front ++ back⟩
  -- There is no document, or it has no key.
  | giveUp (cache : ClientCache) (waiting : List LookUp) (front : List String) (origin : String)
      (back : List String) (stored : UInt64) (r : Refusal)
      (hdocument : ClientCache.identityOf origin stored (fetch origin) = .error r) :
      Step ⟨cache, waiting, front ++ origin :: back⟩ ⟨cache, waiting, front ++ back⟩

/-- What may happen in any number of steps. -/
inductive Run : LookingUp → LookingUp → Prop where
  -- Nothing happens.
  | refl (s : LookingUp) : Run s s
  -- One step, and what follows.
  | step (s s' t : LookingUp) (hstep : Step lifetime fetch s s') (hrest : Run s' t) : Run s t

/-- What is known at any time of lookups that began with a given cache. -/
structure Consistent (c : ClientCache) (ls : List LookUp) (s : LookingUp) : Prop where
  -- No lookup comes up that is not listed.
  waiting : ∀ l ∈ s.waiting, l ∈ ls
  -- Documents are only awaited where they have to be fetched.
  fetching : ∀ origin ∈ s.fetching, c.Due lifetime ls origin
  -- An entry is the one from the beginning, or a document that had to be fetched.
  entry : ∀ origin, s.cache.find? origin = c.find? origin ∨
    c.Due lifetime ls origin ∧ ∃ key devices, fetch origin = .ok ⟨some key, devices⟩ ∧
      (s.cache.find? origin).map (·.content) = some (key, devices)
  -- A document that has to be fetched is stored, or awaited, or will be asked for.
  due : ∀ origin key devices, c.Due lifetime ls origin →
    fetch origin = .ok ⟨some key, devices⟩ →
      (s.cache.find? origin).map (·.content) = some (key, devices) ∨ origin ∈ s.fetching ∨
        c.Due lifetime s.waiting origin

theorem consistent_start (c : ClientCache) (ls : List LookUp) :
    Consistent lifetime fetch c ls ⟨c, ls, []⟩ where
  waiting _ hl := hl
  fetching _ horigin := absurd horigin List.not_mem_nil
  entry _ := .inl rfl
  due _ _ _ hdue _ := .inr (.inr hdue)

variable {lifetime fetch}

-- A lookup that finds nothing to reuse in between would have found nothing in
-- the beginning, or its origin had to be fetched anyway.
theorem Consistent.due_of_miss {c : ClientCache} {ls : List LookUp} {s : LookingUp}
    (h : Consistent lifetime fetch c ls s) (l : LookUp) (hl : l ∈ s.waiting)
    (hfresh : s.cache.fresh? lifetime l.now l.origin = none) :
    c.Due lifetime ls l.origin := by
  rcases h.entry l.origin with hsame | ⟨hdue, _⟩
  · rw [s.cache.fresh?_congr c lifetime l.now l.origin hsame] at hfresh
    exact ⟨l, h.waiting l hl, rfl, hfresh⟩
  · exact hdue

-- A lookup that finds something to reuse leaves nothing undone: either it would
-- have found it in the beginning, or the document has been stored since.
theorem Consistent.stored_of_hit {c : ClientCache} {ls : List LookUp} {s : LookingUp}
    (h : Consistent lifetime fetch c ls s) (l : LookUp) (entry : ClientIdentity)
    (hfresh : s.cache.fresh? lifetime l.now l.origin = some entry)
    (hold : c.fresh? lifetime l.now l.origin = none) (key : String)
    (devices : Option (List String)) (hdocument : fetch l.origin = .ok ⟨some key, devices⟩) :
    (s.cache.find? l.origin).map (·.content) = some (key, devices) := by
  rcases h.entry l.origin with hsame | ⟨_, key', devices', hdocument', hcontent⟩
  · rw [s.cache.fresh?_congr c lifetime l.now l.origin hsame, hold] at hfresh
    exact absurd hfresh (by simp only [reduceCtorEq, not_false_eq_true])
  · rw [hdocument', Except.ok.injEq, ClientDocument.mk.injEq, Option.some.injEq] at hdocument
    rw [hcontent, hdocument.1, hdocument.2]

-- A lookup is due if one that begins is, or one that still waits.
theorem due_cut {c : ClientCache} {front back : List LookUp} {l : LookUp} {origin : String}
    (h : c.Due lifetime (front ++ l :: back) origin) :
    l.origin = origin ∧ c.fresh? lifetime l.now origin = none ∨
      c.Due lifetime (front ++ back) origin := by
  rcases h with ⟨l', hl', horigin, hold⟩
  rcases List.mem_cons.mp (List.perm_middle.mem_iff.mp hl') with rfl | hrest
  · exact .inl ⟨horigin, hold⟩
  · exact .inr ⟨l', hrest, horigin, hold⟩

/-- What is known of lookups under way stays so, whatever happens next. -/
theorem Step.consistent {c : ClientCache} {ls : List LookUp} {s t : LookingUp}
    (hstep : Step lifetime fetch s t) (h : Consistent lifetime fetch c ls s) :
    Consistent lifetime fetch c ls t := by
  cases hstep with
  | hit cache front l back fetching entry hfresh =>
      have hrest : ∀ l' ∈ front ++ back, l' ∈ ls := fun l' hl' =>
        h.waiting l' (List.perm_middle.mem_iff.mpr (List.mem_cons_of_mem l hl'))
      refine ⟨hrest, h.fetching, h.entry, fun origin key devices hdue hdocument => ?_⟩
      rcases h.due origin key devices hdue hdocument with hstored | hawaited | hwaits
      · exact .inl hstored
      · exact .inr (.inl hawaited)
      · rcases due_cut hwaits with ⟨rfl, hold⟩ | hwaits
        · exact .inl (h.stored_of_hit l entry hfresh hold key devices hdocument)
        · exact .inr (.inr hwaits)
  | miss cache front l back fetching hfresh =>
      have hl : l ∈ front ++ l :: back := List.mem_append_right front List.mem_cons_self
      have hrest : ∀ l' ∈ front ++ back, l' ∈ ls := fun l' hl' =>
        h.waiting l' (List.perm_middle.mem_iff.mpr (List.mem_cons_of_mem l hl'))
      have hfetching : ∀ origin ∈ l.origin :: fetching, c.Due lifetime ls origin :=
        List.forall_mem_cons.mpr ⟨h.due_of_miss l hl hfresh, h.fetching⟩
      refine ⟨hrest, hfetching, h.entry, fun origin key devices hdue hdocument => ?_⟩
      rcases h.due origin key devices hdue hdocument with hstored | hawaited | hwaits
      · exact .inl hstored
      · exact .inr (.inl (List.mem_cons_of_mem _ hawaited))
      · rcases due_cut hwaits with ⟨rfl, _⟩ | hwaits
        · exact .inr (.inl List.mem_cons_self)
        · exact .inr (.inr hwaits)
  | store cache waiting front origin back stored entry hdocument =>
      rcases (ClientCache.identityOf_eq_ok _ _ _ _).mp hdocument with ⟨key, devices, hkey, rfl⟩
      have horigin : origin ∈ front ++ origin :: back :=
        List.mem_append_right front List.mem_cons_self
      have hrest : ∀ other ∈ front ++ back, c.Due lifetime ls other := fun other hother =>
        h.fetching other (List.perm_middle.mem_iff.mpr (List.mem_cons_of_mem origin hother))
      refine ⟨h.waiting, hrest, fun other => ?_, fun other key' devices' hdue hdocument' => ?_⟩
      · rw [cache.find?_insert]
        by_cases hother : other = origin
        · rw [if_pos hother, hother]
          exact .inr ⟨h.fetching origin horigin, key, devices, hkey, rfl⟩
        · rw [if_neg hother]
          exact h.entry other
      · rw [cache.find?_insert]
        by_cases hother : other = origin
        · rw [hother, hkey, Except.ok.injEq, ClientDocument.mk.injEq, Option.some.injEq]
            at hdocument'
          rw [if_pos hother, ← hdocument'.1, ← hdocument'.2]
          exact .inl rfl
        · rw [if_neg hother]
          rcases h.due other key' devices' hdue hdocument' with hstored | hawaited | hwaits
          · exact .inl hstored
          · have hmem := List.mem_cons.mp (List.perm_middle.mem_iff.mp hawaited)
            exact .inr (.inl (hmem.resolve_left hother))
          · exact .inr (.inr hwaits)
  | giveUp cache waiting front origin back stored r hdocument =>
      have hrest : ∀ other ∈ front ++ back, c.Due lifetime ls other := fun other hother =>
        h.fetching other (List.perm_middle.mem_iff.mpr (List.mem_cons_of_mem origin hother))
      refine ⟨h.waiting, hrest, h.entry, fun other key devices hdue hdocument' => ?_⟩
      rcases h.due other key devices hdue hdocument' with hstored | hawaited | hwaits
      · exact .inl hstored
      · rcases List.mem_cons.mp (List.perm_middle.mem_iff.mp hawaited) with rfl | hmem
        · -- A document with a key would have been stored.
          rw [hdocument'] at hdocument
          exact absurd hdocument (by simp only [ClientCache.identityOf, reduceCtorEq,
            not_false_eq_true])
        · exact .inr (.inl hmem)
      · exact .inr (.inr hwaits)

/-- Whatever the others do in between, each step of a run keeps the lookups consistent. -/
theorem Run.consistent {c : ClientCache} {ls : List LookUp} {s t : LookingUp}
    (hrun : Run lifetime fetch s t) (h : Consistent lifetime fetch c ls s) :
    Consistent lifetime fetch c ls t := by
  induction hrun with
  | refl s => exact h
  | step s s' t hstep _ ih => exact ih (hstep.consistent h)

theorem Run.trans {s t u : LookingUp} (h : Run lifetime fetch s t) (h' : Run lifetime fetch t u) :
    Run lifetime fetch s u := by
  induction h with
  | refl s => exact h'
  | step s s' t hstep _ ih => exact .step s s' u hstep (ih h')

variable (lifetime fetch)

-- The first lookup of a list, from its beginning to its end.
theorem run_lookUp (c : ClientCache) (l : LookUp) (ls : List LookUp) :
    Run lifetime fetch ⟨c, l :: ls, []⟩
      ⟨(c.lookUp lifetime fetch l.now l.stored l.origin).2, ls, []⟩ := by
  unfold ClientCache.lookUp
  cases hfresh : c.fresh? lifetime l.now l.origin with
  | some entry => exact .step _ _ _ (.hit c [] l ls [] entry hfresh) (.refl _)
  | none =>
      refine .step _ _ _ (.miss c [] l ls [] hfresh) ?_
      -- Its document is the only one that is awaited, so it is the next to arrive.
      cases hdocument : ClientCache.identityOf l.origin l.stored (fetch l.origin) with
      | ok entry =>
          exact .step _ _ _ (.store c ls [] l.origin [] l.stored entry hdocument) (.refl _)
      | error r =>
          exact .step _ _ _ (.giveUp c ls [] l.origin [] l.stored r hdocument) (.refl _)

/-- Lookups one after another are a way to go side by side. -/
theorem run_lookUps (c : ClientCache) (ls : List LookUp) :
    Run lifetime fetch ⟨c, ls, []⟩ ⟨(c.lookUps lifetime fetch ls).2, [], []⟩ := by
  induction ls generalizing c with
  | nil => exact .refl _
  | cons l ls ih => exact (run_lookUp lifetime fetch c l ls).trans (ih _)

variable {lifetime fetch}

-- When nothing is left to do, the order of events has left no trace.
theorem Consistent.agrees {c c₁ c₂ : ClientCache} {ls : List LookUp}
    (h₁ : Consistent lifetime fetch c ls ⟨c₁, [], []⟩)
    (h₂ : Consistent lifetime fetch c ls ⟨c₂, [], []⟩) : c₁.Agrees c₂ := by
  have hstored : ∀ c', Consistent lifetime fetch c ls ⟨c', [], []⟩ →
      ∀ origin key devices, c.Due lifetime ls origin → fetch origin = .ok ⟨some key, devices⟩ →
        (c'.find? origin).map (·.content) = some (key, devices) := by
    intro c' h origin key devices hdue hdocument
    rcases h.due origin key devices hdue hdocument with hstored | hawaited | ⟨l, hl, _⟩
    · exact hstored
    · exact absurd hawaited List.not_mem_nil
    · exact absurd hl List.not_mem_nil
  intro origin
  rcases h₁.entry origin with hsame₁ | ⟨hdue, key, devices, hdocument, hcontent⟩
  · rcases h₂.entry origin with hsame₂ | ⟨hdue, key, devices, hdocument, hcontent⟩
    · exact congrArg _ (hsame₁.trans hsame₂.symm)
    · exact (hstored c₁ h₁ origin key devices hdue hdocument).trans hcontent.symm
  · exact hcontent.trans (hstored c₂ h₂ origin key devices hdue hdocument).symm

/-- However lookups go side by side, they leave the cache that they leave one
    after another. -/
theorem Run.agrees {c c' : ClientCache} {ls : List LookUp}
    (h : Run lifetime fetch ⟨c, ls, []⟩ ⟨c', [], []⟩) :
    c'.Agrees (c.lookUps lifetime fetch ls).2 := by
  have hstart := consistent_start lifetime fetch c ls
  exact (h.consistent hstart).agrees ((run_lookUps lifetime fetch c ls).consistent hstart)

end LookingUp

end Cosigner
