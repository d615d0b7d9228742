import Cosigner.Proofs.Codec
import Cosigner.Proofs.Ledger.Tables

/-!
# Tables Are Resolved as a Set

A message can look up one table several times, and in any order. What comes of
it must not depend on that: neither the entries nor, if tables cannot be
resolved, which of several refusals is reported. The second part is the one that
could go wrong, because all tables are read and the first refusal counts.

Both follow from one fact about the list that is worked on. `Address.sortedSet`
is strictly ascending, and there is only one strictly ascending list of given
members, so the list that was asked for is forgotten after this step. The first
failure in it is then the smallest failing address.

The project's own table is among the addresses like any other, but nothing is
read for it. So it never fails, and it does not matter what a node would say.

## Main definitions

* `Address.Ascending`: A strictly ascending list.
* `LookupTable.Fails`: Why the account of a table holds none.
* `ResolvesSet`: Resolving as a function of a set.

## Theorems

* `Address.precedes_iff`: The order of addresses is that of their bytes.
* `Address.ascending_sortedSet`, `Address.sortedSet_congr`: The sorted set.
* `resolveTable_eq_error`: Why an address does not resolve.
* `resolveTables_eq_error`: The smallest address that fails is reported.
* `addresses?_eq_some_iff`: What is found under an address.
* `resolveTables_asSet`: Tables are resolved as a set.
-/

namespace Cosigner

namespace Address

/-- Byte strings are compared as lists are, at the first difference. -/
theorem bytesPrecede_iff (xs ys : Bytes) : bytesPrecede xs ys = true ↔ xs ≤ ys := by
  induction xs generalizing ys with
  | nil => exact iff_of_true rfl (List.nil_le ys)
  | cons x xs ih =>
      cases ys with
      | nil => exact iff_of_false Bool.false_ne_true (List.not_le.mpr (List.nil_lt_cons x xs))
      | cons y ys =>
          rw [List.cons_le_cons_iff, bytesPrecede]
          by_cases h : x = y
          · -- The first bytes decide nothing.
            rw [if_pos h, ih ys, h, or_iff_right (UInt8.lt_irrefl y), and_iff_right rfl]
          · rw [if_neg h, decide_eq_true_iff, or_iff_left (fun hc => h hc.1)]

theorem precedes_iff (a b : Address) : a.precedes b = true ↔ a.toBytes ≤ b.toBytes :=
  bytesPrecede_iff a.toBytes b.toBytes

/-- A strictly ascending list. -/
def Ascending (as : List Address) : Prop :=
  as.Pairwise fun a b => a.toBytes < b.toBytes

/-- Inserting keeps a list ascending, as an address that is there is not added again. -/
theorem ascending_insertSorted (a : Address) (as : List Address) (h : Ascending as) :
    Ascending (insertSorted a as) := by
  induction as with
  | nil => exact List.pairwise_singleton _ a
  | cons b rest ih =>
      rcases List.pairwise_cons.mp h with ⟨hb, hrest⟩
      rw [insertSorted]
      by_cases heq : a = b
      · rw [if_pos heq]
        exact h
      · rw [if_neg heq]
        by_cases hbefore : a.precedes b = true
        · rw [if_pos hbefore]
          have hlt : a.toBytes < b.toBytes :=
            Std.lt_of_le_of_ne ((a.precedes_iff b).mp hbefore) fun hc => heq (Octets.ext a b hc)
          refine List.pairwise_cons.mpr ⟨fun c hc => ?_, h⟩
          rcases List.mem_cons.mp hc with rfl | hc
          · exact hlt
          · exact List.lt_trans hlt (hb c hc)
        · rw [if_neg hbefore]
          have hlt : b.toBytes < a.toBytes :=
            List.not_le.mp fun hc => hbefore ((a.precedes_iff b).mpr hc)
          refine List.pairwise_cons.mpr ⟨fun c hc => ?_, ih hrest⟩
          rcases (mem_insertSorted c a rest).mp hc with rfl | hc
          · exact hlt
          · exact hb c hc

theorem ascending_sortedSet (as : List Address) : Ascending (sortedSet as) := by
  induction as with
  | nil => exact List.Pairwise.nil
  | cons a rest ih => exact ascending_insertSorted a _ ih

-- An ascending list has no repetitions.
theorem Ascending.nodup (as : List Address) (h : Ascending as) : as.Nodup := by
  refine List.Pairwise.imp (fun {a b} hlt heq => ?_) h
  rw [heq] at hlt
  exact List.lt_irrefl _ hlt

/-- An ascending list is determined by its members. -/
theorem Ascending.eq_of_mem_iff (as bs : List Address) (h : Ascending as) (h' : Ascending bs)
    (hmem : ∀ a, a ∈ as ↔ a ∈ bs) : as = bs := by
  have hperm : as.Perm bs := (List.perm_ext_iff_of_nodup (h.nodup as) (h'.nodup bs)).mpr hmem
  exact hperm.eq_of_pairwise (fun a b _ _ hlt hlt' => absurd hlt' (List.lt_asymm hlt)) h h'

/-- The sorted set depends on the members alone. -/
theorem sortedSet_congr (as bs : List Address) (h : ∀ a, a ∈ as ↔ a ∈ bs) :
    sortedSet as = sortedSet bs := by
  refine (ascending_sortedSet as).eq_of_mem_iff _ _ (ascending_sortedSet bs) fun a => ?_
  rw [mem_sortedSet, mem_sortedSet, h a]

end Address

/-- Why the account of a table holds none. -/
inductive LookupTable.Fails (accounts : AccountStore) (key : Address) : Refusal → Prop where
  /-- It cannot be read. -/
  | unread (reason : String) (h : accounts key = .error reason) :
    Fails accounts key (.connection reason)
  /-- There is no such account. -/
  | absent (h : accounts key = .ok none) : Fails accounts key (.missingTable key)
  /-- Its data is no table. -/
  | malformed (data : Bytes) (fault : AccountFault) (h : accounts key = .ok (some data))
    (hdata : ofAccountData data = .error fault) :
    Fails accounts key (.malformedInstruction (.badTable key fault.message))

/-- An address does not resolve for one of three reasons. The project's own table always
    resolves. -/
theorem resolveTable_eq_error (accounts : AccountStore) (key : Address) (r : Refusal) :
    (resolveTable accounts key).result = .error r ↔
      key ≠ Program.pinnedTable ∧ LookupTable.Fails accounts key r := by
  unfold resolveTable
  by_cases hpinned : key = Program.pinnedTable
  · rw [if_pos hpinned, Query.result_pure]
    simp only [reduceCtorEq, hpinned, ne_eq, not_true, false_and]
  · rw [if_neg hpinned, Query.result_ask, and_iff_right hpinned]
    constructor
    · intro h
      cases hread : accounts key with
      | error reason =>
          simp only [hread, Except.error.injEq] at h
          exact h ▸ .unread reason hread
      | ok data? =>
          cases data? with
          | none =>
              simp only [hread, Except.error.injEq] at h
              exact h ▸ .absent hread
          | some data =>
              cases hdata : LookupTable.ofAccountData data with
              | error fault =>
                  simp only [hread, hdata, Except.error.injEq] at h
                  exact h ▸ .malformed data fault hread hdata
              | ok addresses => simp only [hread, hdata, reduceCtorEq] at h
    · intro h
      cases h with
      | unread reason h => simp only [h]
      | absent h => simp only [h]
      | malformed data fault h hdata => simp only [h, hdata]

/-- An address resolves if it is the project's own table or its account decodes. -/
theorem resolveTable_isOk (accounts : AccountStore) (key : Address) :
    (∃ t, (resolveTable accounts key).result = .ok t) ↔ (key ≠ Program.pinnedTable →
      ∃ data addresses, accounts key = .ok (some data) ∧
        LookupTable.ofAccountData data = .ok addresses) := by
  simp only [resolveTable_eq_ok]
  constructor
  · intro h hpinned
    rcases h with ⟨t, rfl, h⟩
    rw [LookupTable.OnChain, if_neg hpinned] at h
    rcases h with ⟨data, hread, hdata⟩
    exact ⟨data, t.addresses, hread, hdata⟩
  · intro h
    by_cases hpinned : key = Program.pinnedTable
    · refine ⟨⟨key, Program.pinnedAddresses⟩, rfl, ?_⟩
      rw [LookupTable.OnChain, if_pos hpinned]
    · rcases h hpinned with ⟨data, addresses, hread, hdata⟩
      refine ⟨⟨key, addresses⟩, rfl, ?_⟩
      rw [LookupTable.OnChain, if_neg hpinned]
      exact ⟨data, hread, hdata⟩

/-- What is found under an address is in one of the tables. -/
theorem LookupTable.mem_of_addresses? (tables : List LookupTable) (key : Address)
    (addresses : List Address) (h : LookupTable.addresses? tables key = some addresses) :
    LookupTable.mk key addresses ∈ tables := by
  rw [LookupTable.addresses?, List.findRev?_eq_findRev?TR, List.findRev?TR,
    Option.map_eq_some_iff] at h
  rcases h with ⟨t, ht, rfl⟩
  have hkey := List.find?_some ht
  rw [decide_eq_true_iff] at hkey
  rw [← hkey]
  exact List.mem_reverse.mp (List.mem_of_find?_eq_some ht)

section Tables

variable (accounts : AccountStore) (keys : List Address)

-- All of them are read, but the one that is reported has the smallest address.
theorem resolveTables_eq_error (r : Refusal) :
    (resolveTables accounts keys).result = .error r ↔
      ∃ key ∈ keys, (resolveTable accounts key).result = .error r ∧
        ∀ other ∈ keys, other.toBytes < key.toBytes →
          ∃ t, (resolveTable accounts other).result = .ok t := by
  rw [resolveTables, Query.result_forAll_eq_error, Outcome.firstFailure_of_pairwise _
    (fun a b hlt => List.lt_asymm hlt) _ _ (Address.ascending_sortedSet keys)]
  simp only [Address.mem_sortedSet]

section Resolved

variable (ts : List LookupTable) (h : (resolveTables accounts keys).result = .ok ts)

include h

/-- The tables that come out are in the order of their addresses. -/
theorem map_key_resolveTables : ts.map (·.key) = Address.sortedSet keys := by
  rw [resolveTables, Query.result_forAll_eq_ok] at h
  have hkeys : List.Forall₂ (fun key t => key = t.key) (Address.sortedSet keys) ts :=
    h.imp fun key t ht => (key_resolveTable accounts key t ht).symm
  rw [← List.forall₂_map_right_iff, List.forall₂_eq_eq_eq] at hkeys
  exact hkeys.symm

/-- What is found under an address is the table there, if the address was asked for. -/
theorem addresses?_eq_some_iff (key : Address) (addresses : List Address) :
    LookupTable.addresses? ts key = some addresses ↔
      key ∈ keys ∧ (LookupTable.mk key addresses).OnChain accounts := by
  constructor
  · intro hfound
    have hkey : key ∈ keys := by
      rw [← Address.mem_sortedSet, ← map_key_resolveTables accounts keys ts h]
      exact List.mem_map_of_mem (LookupTable.mem_of_addresses? ts key addresses hfound)
    rcases (resolveTables_isOk accounts keys).mp ⟨ts, h⟩ key hkey with ⟨t, ht⟩
    rw [addresses?_resolveTables accounts keys ts h key hkey t ht, Option.some.injEq] at hfound
    rcases (resolveTable_eq_ok accounts key t).mp ht with ⟨rfl, hchain⟩
    rw [← hfound]
    exact ⟨hkey, hchain⟩
  · intro hasked
    exact addresses?_resolveTables accounts keys ts h key hasked.1 _ hasked.2.resolveTable

end Resolved

-- Nothing is asked about the project's own table, so no answer about it matters.
theorem account_pinnedTable_notMem_reads :
    .account Program.pinnedTable ∉ (resolveTables accounts keys).reads := by
  intro hread
  rcases List.mem_flatMap.mp hread with ⟨key, _, hkey⟩
  unfold resolveTable at hkey
  by_cases hpinned : key = Program.pinnedTable
  · rw [if_pos hpinned] at hkey
    exact absurd hkey List.not_mem_nil
  · rw [if_neg hpinned] at hkey
    rcases List.mem_singleton.mp hkey with hread
    exact hpinned (Read.account.inj hread).symm

/-- What a node would answer for the pinned table has no part. -/
theorem resolveTables_congr (accounts' : AccountStore)
    (h : ∀ key ≠ Program.pinnedTable, accounts' key = accounts key) :
    resolveTables accounts' keys = resolveTables accounts keys := by
  have hone : resolveTable accounts' = resolveTable accounts := by
    funext key
    unfold resolveTable
    by_cases hpinned : key = Program.pinnedTable
    · rw [if_pos hpinned, if_pos hpinned]
    · rw [if_neg hpinned, if_neg hpinned, h key hpinned]
  rw [resolveTables, resolveTables, hone]

end Tables

/-- Resolving tables as a function of a set of addresses. -/
structure ResolvesSet (accounts : AccountStore) : Prop where
  -- Tables resolve exactly if every address but that of the project's own table has an
  -- account that decodes.
  success : ∀ keys, (∃ ts, (resolveTables accounts keys).result = .ok ts) ↔
    ∀ key ∈ keys, key ≠ Program.pinnedTable → ∃ data addresses,
      accounts key = .ok (some data) ∧ LookupTable.ofAccountData data = .ok addresses
  -- What comes out has one entry for each address that was asked for,
  entries : ∀ keys ts, (resolveTables accounts keys).result = .ok ts →
    (ts.map (·.key)).Nodup ∧ ∀ key, key ∈ ts.map (·.key) ↔ key ∈ keys
  -- with the addresses of the table there, in their order,
  contents : ∀ keys ts, (resolveTables accounts keys).result = .ok ts →
    ∀ key ∈ keys, key ≠ Program.pinnedTable → ∀ addresses,
      LookupTable.addresses? ts key = some addresses ↔
        ∃ data, accounts key = .ok (some data) ∧ LookupTable.ofAccountData data = .ok addresses
  -- or with those that are fixed.
  pinned : ∀ keys ts, (resolveTables accounts keys).result = .ok ts →
    Program.pinnedTable ∈ keys →
      LookupTable.addresses? ts Program.pinnedTable = some Program.pinnedAddresses
  -- The project's own table is not read, and what a node says about it has no part.
  unasked : ∀ keys, .account Program.pinnedTable ∉ (resolveTables accounts keys).reads ∧
    ∀ accounts' : AccountStore, (∀ key ≠ Program.pinnedTable, accounts' key = accounts key) →
      resolveTables accounts' keys = resolveTables accounts keys
  -- Otherwise the refusal is that of the smallest address that fails.
  failure : ∀ keys r, (resolveTables accounts keys).result = .error r ↔
    ∃ key ∈ keys, (key ≠ Program.pinnedTable ∧ LookupTable.Fails accounts key r) ∧
      ∀ other ∈ keys, ∀ r', other ≠ Program.pinnedTable → LookupTable.Fails accounts other r' →
        key.toBytes ≤ other.toBytes
  -- Order and repetitions have no part: the outcome is the same, and so is what is read.
  sameSet : ∀ keys keys', (∀ key, key ∈ keys ↔ key ∈ keys') →
    resolveTables accounts keys = resolveTables accounts keys'

/-- Tables are resolved as a set, whatever a node answers. Each comes out once and with
    what is on chain, the pinned one is not asked for, and a refusal is about the smallest
    address that fails. -/
theorem resolveTables_asSet (accounts : AccountStore) : ResolvesSet accounts where
  success keys := by
    simp only [resolveTables_isOk, resolveTable_isOk]
  entries keys ts h := by
    rw [map_key_resolveTables accounts keys ts h]
    exact ⟨(Address.ascending_sortedSet keys).nodup _, fun key => Address.mem_sortedSet key keys⟩
  contents keys ts h key hkey hpinned addresses := by
    rw [addresses?_eq_some_iff accounts keys ts h, and_iff_right hkey, LookupTable.OnChain,
      if_neg hpinned]
  pinned keys ts h hkey := by
    rw [addresses?_eq_some_iff accounts keys ts h, and_iff_right hkey, LookupTable.OnChain,
      if_pos rfl]
  unasked keys :=
    ⟨account_pinnedTable_notMem_reads accounts keys, resolveTables_congr accounts keys⟩
  failure keys r := by
    rw [resolveTables_eq_error]
    refine exists_congr fun key => and_congr_right fun _ => ?_
    rw [resolveTable_eq_error]
    refine and_congr_right fun _ => forall₂_congr fun other _ => ?_
    -- What is smaller resolves, which is to say that what fails is not smaller.
    simp only [Outcome.isOk_iff, ne_eq, resolveTable_eq_error, not_and]
    constructor
    · intro h r' hpinned hfails
      exact List.not_lt.mp fun hlt => h hlt r' hpinned hfails
    · intro h hlt r' hpinned hfails
      exact List.not_lt.mpr (h r' hpinned hfails) hlt
  sameSet keys keys' h := by
    rw [resolveTables, resolveTables, Address.sortedSet_congr keys keys' h]

-- Two addresses fail, for different reasons. The smaller one is reported, however they are
-- listed, and each is read once.
example :
    let key (n : UInt8) : Address := Octets.replicate 32 n
    let accounts : AccountStore := fun a => if a = key 3 then .ok none else .error "unreachable"
    let listed := resolveTables accounts [key 5, Program.pinnedTable, key 3, key 5]
    listed.result = .error (.missingTable (key 3)) ∧
      listed.reads = [.account (key 3), .account (key 5)] ∧
      (resolveTables accounts [key 3, key 5]).result = listed.result := by
  decide +kernel

end Cosigner
