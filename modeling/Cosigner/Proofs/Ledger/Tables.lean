import Cosigner.Ledger.Tables
import Cosigner.Proofs.Message.RoundTrip

/-!
# What Resolving Tables Yields

Tables are resolved as a set, in an order that nobody asked for, while a message
looks them up by address. So what matters of the outcome is which entries are
found under an address: those that the account there holds, if the address was
asked for at all, and the fixed ones for the project's own table.

`LookupTable.OnChain` is the other side of this. A table that somebody compiled
with is found again exactly if the ledger answers with it.

## Main definitions

* `LookupTable.OnChain`: A table that a ledger answers with.

## Theorems

* `Address.mem_sortedSet`: A sorted set has the entries of its list.
* `resolveTable_eq_ok`: What an address resolves to.
* `resolveTables_isOk`: When tables resolve.
* `exists_mem_resolveTables`: The tables that were resolved.
* `addresses?_resolveTables`: The entries found under an address.
-/

namespace Cosigner

namespace Address

theorem mem_insertSorted (a b : Address) (as : List Address) :
    a ∈ insertSorted b as ↔ a = b ∨ a ∈ as := by
  induction as with
  | nil => rw [insertSorted, List.mem_singleton, or_iff_left List.not_mem_nil]
  | cons x rest ih =>
      rw [insertSorted]
      by_cases hx : b = x
      · -- An address that is there already is not added again.
        rw [if_pos hx, List.mem_cons, hx, ← or_assoc, or_self]
      · rw [if_neg hx]
        by_cases hbefore : b.precedes x = true
        · rw [if_pos hbefore, List.mem_cons]
        · rw [if_neg hbefore, List.mem_cons, List.mem_cons, ih, or_left_comm]

/-- A sorted set has the entries of its list. -/
theorem mem_sortedSet (a : Address) (as : List Address) : a ∈ sortedSet as ↔ a ∈ as := by
  induction as with
  | nil => rfl
  | cons b rest ih =>
      rw [sortedSet, List.foldr_cons, mem_insertSorted, List.mem_cons]
      exact or_congr_right ih

end Address

/-- A table that a ledger answers with: its account decodes to its entries. The
    project's own table has the fixed entries, whatever the ledger says. -/
def LookupTable.OnChain (accounts : AccountStore) (t : LookupTable) : Prop :=
  if t.key = Program.pinnedTable then t.addresses = Program.pinnedAddresses
  else ∃ data, accounts t.key = .ok (some data) ∧ ofAccountData data = .ok t.addresses

/-- An address resolves to the table that the ledger answers with under it. -/
theorem resolveTable_eq_ok (accounts : AccountStore) (key : Address) (t : LookupTable) :
    (resolveTable accounts key).result = .ok t ↔ t.key = key ∧ t.OnChain accounts := by
  unfold resolveTable
  constructor
  · intro h
    by_cases hpinned : key = Program.pinnedTable
    · rw [if_pos hpinned, Query.result_pure, Except.ok.injEq] at h
      rw [← h]
      refine ⟨rfl, ?_⟩
      rw [LookupTable.OnChain, if_pos hpinned]
    · rw [if_neg hpinned, Query.result_ask] at h
      cases hread : accounts key with
      | error reason => simp only [hread, reduceCtorEq] at h
      | ok data? =>
          cases data? with
          | none => simp only [hread, reduceCtorEq] at h
          | some data =>
              cases hdata : LookupTable.ofAccountData data with
              | error fault => simp only [hread, hdata, reduceCtorEq] at h
              | ok addresses =>
                  simp only [hread, hdata, Except.ok.injEq] at h
                  rw [← h]
                  refine ⟨rfl, ?_⟩
                  rw [LookupTable.OnChain, if_neg hpinned]
                  exact ⟨data, hread, hdata⟩
  · rintro ⟨rfl, h⟩
    unfold LookupTable.OnChain at h
    by_cases hpinned : t.key = Program.pinnedTable
    · rw [if_pos hpinned] at h
      rw [if_pos hpinned, Query.result_pure, ← h]
    · rw [if_neg hpinned] at h
      rcases h with ⟨data, hread, hdata⟩
      rw [if_neg hpinned, Query.result_ask]
      simp only [hread, hdata]

/-- A table that resolves has the address that was asked for. -/
theorem key_resolveTable (accounts : AccountStore) (key : Address) (t : LookupTable)
    (h : (resolveTable accounts key).result = .ok t) : t.key = key :=
  ((resolveTable_eq_ok accounts key t).mp h).1

/-- A table on chain is what its address resolves to. -/
theorem LookupTable.OnChain.resolveTable {accounts : AccountStore} {t : LookupTable}
    (h : t.OnChain accounts) : (resolveTable accounts t.key).result = .ok t :=
  (resolveTable_eq_ok accounts t.key t).mpr ⟨rfl, h⟩

/-- Tables resolve exactly if each of them does. -/
theorem resolveTables_isOk (accounts : AccountStore) (keys : List Address) :
    (∃ ts, (resolveTables accounts keys).result = .ok ts) ↔
      ∀ key ∈ keys, ∃ t, (resolveTable accounts key).result = .ok t := by
  simp only [resolveTables, Query.result_forAll_eq_ok, Outcome.exists_forall₂,
    Address.mem_sortedSet]

/-- Every address that was asked for has its table among those that were resolved. -/
theorem exists_mem_resolveTables (accounts : AccountStore) (keys : List Address)
    (ts : List LookupTable) (h : (resolveTables accounts keys).result = .ok ts) (key : Address)
    (hkey : key ∈ keys) : ∃ t ∈ ts, t.key = key ∧ t.OnChain accounts := by
  rw [resolveTables, Query.result_forAll_eq_ok] at h
  rcases Outcome.mem_of_forall₂_right _ _ _ h.flip key ((Address.mem_sortedSet key keys).mpr hkey)
    with ⟨t, ht, hresolve⟩
  exact ⟨t, ht, (resolveTable_eq_ok accounts key t).mp hresolve⟩

/-- The entries found under an address that was asked for are those of the table
    that the address resolves to. -/
theorem addresses?_resolveTables (accounts : AccountStore) (keys : List Address)
    (ts : List LookupTable) (h : (resolveTables accounts keys).result = .ok ts) (key : Address)
    (hkey : key ∈ keys) (t : LookupTable) (ht : (resolveTable accounts key).result = .ok t) :
    LookupTable.addresses? ts key = some t.addresses := by
  have hown : ∀ s ∈ ts, (resolveTable accounts s.key).result = .ok s := by
    intro s hs
    rw [resolveTables, Query.result_forAll_eq_ok] at h
    rcases Outcome.mem_of_forall₂_right _ _ _ h s hs with ⟨k, _, hk⟩
    rw [key_resolveTable accounts k s hk]
    exact hk
  have hmem : t ∈ ts := by
    rcases exists_mem_resolveTables accounts keys ts h key hkey with ⟨s, hs, hsound⟩
    have hsame := (resolveTable_eq_ok accounts key s).mpr hsound
    rw [ht, Except.ok.injEq] at hsame
    rw [hsame]
    exact hs
  rw [← key_resolveTable accounts key t ht]
  refine LookupTable.addresses?_of_mem ts t hmem (fun s hs s' hs' heq => ?_)
  -- Tables under one address are what the address resolves to.
  have hsame := hown s hs
  rw [heq, hown s' hs', Except.ok.injEq] at hsame
  rw [hsame]

end Cosigner
