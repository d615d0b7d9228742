import Cosigner.Proofs.Message.Roster
import Mathlib.Data.List.Perm.Basic

/-!
# What Tables Take Over

Tables are gone through in turn, and each one changes the roster that the next
one sees. Yet what a table takes over can be said without running the tables in
front of it. A key leaves the roster exactly if it does not sign and some table
so far holds it, so the roster in front of a table is the gathered one without
the keys that earlier tables hold. `Roster.beyond` is this roster, and with it
every turn stands on its own.

A table takes over the keys that do not sign and that it holds, writable ones and
readonly ones, each in roster order, or nothing if it holds none of them. It
fails exactly if the first place of such a key does not fit into a byte.

Keys are only moved. Those that are left and those that were taken over are
together the keys that there were, each as often as before.

## Main definitions

* `LookupTable.Hold`: Whether some table holds a key.
* `LookupTable.turns`: Each table with those in front of it.
* `Roster.beyond`: What tables leave behind.
* `Roster.share`, `Roster.handOver`: What a table takes over.
* `Roster.handOvers`: What tables take over in turn.
* `Roster.Reaches`: A table whose places fit into bytes.

## Theorems

* `Roster.extraction?_of_reaches`, `Roster.extraction?_of_not_reaches`: What one
  table comes out with.
* `Roster.extract_of_reaches`: What one table leaves behind.
* `Roster.extractAll_of_reaches`, `Roster.extractAll_of_not_reaches`: What tables
  in turn come out with.
* `Roster.perm_share`, `Roster.perm_handOvers`: Keys are only moved.
-/

namespace Cosigner

-- Key lists are compared by counting.
theorem count_filter {α : Type} [DecidableEq α] (p : α → Bool) (a : α) (as : List α) :
    (as.filter p).count a = if p a then as.count a else 0 := by
  by_cases h : p a = true
  · rw [if_pos h, List.count_filter h]
  · rw [if_neg h, List.count_eq_zero]
    exact fun hmem => h (List.mem_filter.mp hmem).2

/-- Keys loaded in two segments are those of the single loadings. -/
theorem LoadedKeys.perm_toList_concat (parts : List LoadedKeys) :
    (concat parts).toList.Perm (parts.flatMap toList) := by
  induction parts with
  | nil => exact List.Perm.refl _
  | cons part rest ih =>
      rw [List.perm_iff_count] at ih ⊢
      intro key
      have hrest := ih key
      simp only [concat, toList, List.flatMap_cons, List.count_append] at hrest ⊢
      omega

namespace LookupTable

/-- Whether some of the tables holds a key. -/
def Hold (tables : List LookupTable) (key : Address) : Prop :=
  ∃ t ∈ tables, key ∈ t.addresses

instance (tables : List LookupTable) (key : Address) : Decidable (Hold tables key) :=
  inferInstanceAs (Decidable (∃ t ∈ tables, key ∈ t.addresses))

-- Which tables hold a key does not depend on how they are listed.
theorem hold_append (ts us : List LookupTable) (key : Address) :
    Hold (ts ++ us) key ↔ Hold ts key ∨ Hold us key := by
  simp only [Hold, List.mem_append, or_and_right, exists_or]

theorem hold_singleton (t : LookupTable) (key : Address) : Hold [t] key ↔ key ∈ t.addresses := by
  simp only [Hold, List.mem_singleton, exists_eq_left]

/-- Each table together with those in front of it, where `before` is in front of
    all of them. -/
def turns (before : List LookupTable) : List LookupTable → List (List LookupTable × LookupTable)
  | [] => []
  | t :: rest => (before, t) :: turns (before ++ [t]) rest

/-- A turn is a way to take the tables apart at one of them. -/
theorem mem_turns (before tables seen : List LookupTable) (t : LookupTable) :
    (seen, t) ∈ turns before tables ↔
      ∃ front rest, tables = front ++ t :: rest ∧ seen = before ++ front := by
  induction tables generalizing before with
  | nil => simp only [turns, List.not_mem_nil, List.nil_eq, List.append_eq_nil_iff, reduceCtorEq,
      and_false, false_and, exists_false]
  | cons u rest ih =>
      rw [turns, List.mem_cons, Prod.mk.injEq, ih]
      constructor
      · intro h
        rcases h with ⟨rfl, rfl⟩ | ⟨front, rest', rfl, rfl⟩
        · exact ⟨[], rest, rfl, (List.append_nil _).symm⟩
        · exact ⟨u :: front, rest', rfl, by rw [List.append_assoc, List.singleton_append]⟩
      · intro h
        rcases h with ⟨front, rest', htables, rfl⟩
        cases front with
        | nil =>
            rw [List.nil_append, List.cons.injEq] at htables
            exact .inl ⟨List.append_nil _, htables.1.symm⟩
        | cons v front =>
            rw [List.cons_append, List.cons.injEq] at htables
            refine .inr ⟨front, rest', htables.2, ?_⟩
            rw [htables.1, List.append_assoc, List.singleton_append]

theorem idxOf?_of_mem (t : LookupTable) (key : Address) (h : key ∈ t.addresses) :
    t.addresses.idxOf? key = some (t.addresses.idxOf key) := by
  rcases Option.isSome_iff_exists.mp (List.isSome_idxOf?.mpr h) with ⟨place, hplace⟩
  rw [List.idxOf_eq_getD_idxOf?, hplace, Option.getD_some]

/-- The first places of keys in a table, as bytes. -/
def places (t : LookupTable) (keys : List Address) : List UInt8 :=
  keys.map fun key => UInt8.ofNat (t.addresses.idxOf key)

end LookupTable

namespace Roster

/-- The keys still to be carried. -/
def keys (r : Roster) : List Address :=
  r.entries.map (·.key)

/-- What tables leave behind: signers, and keys that no table holds. -/
def beyond (r : Roster) (tables : List LookupTable) : Roster :=
  { r with entries := r.entries.filter fun e => e.role.signer ∨ ¬ LookupTable.Hold tables e.key }

/-- The keys of one writability that a table takes over. -/
def share (r : Roster) (t : LookupTable) (writable : Bool) : List Address :=
  (r.entries.filter fun e => e.role = ⟨false, writable⟩ ∧ e.key ∈ t.addresses).map (·.key)

/-- What a table takes over, if anything. -/
def handOver (r : Roster) (t : LookupTable) : Option Extraction :=
  if r.share t true = [] ∧ r.share t false = [] then none
  else some ⟨⟨t.key, t.places (r.share t true), t.places (r.share t false)⟩,
    ⟨r.share t true, r.share t false⟩⟩

/-- What tables hand over in turn, where `before` is in front of all of them. -/
def handOvers (r : Roster) (before tables : List LookupTable) : List Extraction :=
  (LookupTable.turns before tables).filterMap fun turn => (r.beyond turn.1).handOver turn.2

/-- A table in which the first place of every key to take over fits into a byte. -/
def Reaches (r : Roster) (t : LookupTable) : Prop :=
  ∀ writable, ∀ key ∈ r.share t writable, t.addresses.idxOf key < 256

/-- Tables take their keys away one after the other, as if all of them did at once. -/
theorem beyond_nil (r : Roster) : r.beyond [] = r := by
  have hall : ∀ e ∈ r.entries, decide (e.role.signer ∨ ¬ LookupTable.Hold [] e.key) = true := by
    intro e _
    simp only [LookupTable.Hold, List.not_mem_nil, false_and, exists_false, not_false_eq_true,
      or_true, decide_true]
  rw [beyond, List.filter_eq_self.mpr hall]

theorem beyond_append (r : Roster) (ts us : List LookupTable) :
    (r.beyond ts).beyond us = r.beyond (ts ++ us) := by
  simp only [beyond, List.filter_filter, mk.injEq, true_and]
  refine List.filter_congr fun e _ => ?_
  rw [← Bool.decide_and, decide_eq_decide, LookupTable.hold_append, not_or, ← or_and_left,
    and_comm]

/-- An entry stays if it signs or if no table holds its key. -/
theorem mem_beyond (r : Roster) (tables : List LookupTable) (e : AccountRef) :
    e ∈ (r.beyond tables).entries ↔
      e ∈ r.entries ∧ (e.role.signer ∨ ¬ LookupTable.Hold tables e.key) := by
  rw [beyond, List.mem_filter, decide_eq_true_iff]

/-- A table gets the keys that it holds, if they do not sign, sorted by whether they are
    writable. -/
theorem mem_share (r : Roster) (t : LookupTable) (writable : Bool) (key : Address) :
    key ∈ r.share t writable ↔ ⟨key, ⟨false, writable⟩⟩ ∈ r.entries ∧ key ∈ t.addresses := by
  rw [share, List.mem_map]
  constructor
  · intro h
    rcases h with ⟨e, he, rfl⟩
    rw [List.mem_filter, decide_eq_true_iff] at he
    rw [← he.2.1]
    exact ⟨he.1, he.2.2⟩
  · intro h
    rcases h with ⟨hentry, hkey⟩
    exact ⟨_, List.mem_filter.mpr ⟨hentry, decide_eq_true ⟨rfl, hkey⟩⟩, rfl⟩

/-- The entries to take over are the loadable ones of their writability. -/
theorem loadable_iff (e : AccountRef) (writable : Bool) :
    (loadable e && e.role.writable == writable) = true ↔ e.role = ⟨false, writable⟩ := by
  rcases e with ⟨key, ⟨signer, w⟩⟩
  simp only [loadable, Role.invoked, Bool.not_false, Bool.and_true, Bool.and_eq_true,
    Bool.not_eq_true', beq_iff_eq, Role.mk.injEq]

/-- A match is a key to take over, with its first place. -/
theorem matching_eq (r : Roster) (t : LookupTable) (writable : Bool) :
    r.matching t writable = (r.share t writable).map fun key => (t.addresses.idxOf key, key) := by
  rw [matching, share, List.map_map, ← List.filterMap_eq_map, List.filterMap_filter,
    List.filterMap_filter]
  refine List.filterMap_congr fun e _ => ?_
  by_cases hrole : e.role = ⟨false, writable⟩
  · rw [if_pos ((loadable_iff e writable).mpr hrole)]
    by_cases hmem : e.key ∈ t.addresses
    · rw [if_pos (decide_eq_true ⟨hrole, hmem⟩), LookupTable.idxOf?_of_mem t e.key hmem]
      rfl
    · rw [if_neg (by simp only [hmem, and_false, decide_false, Bool.false_eq_true,
        not_false_eq_true]), List.idxOf?_eq_none_iff.mpr hmem]
      rfl
  · rw [if_neg (fun h => hrole ((loadable_iff e writable).mp h)),
      if_neg (by simp only [hrole, false_and, decide_false, Bool.false_eq_true,
        not_false_eq_true])]

/-- Places are found as bytes if all of them are small enough. -/
theorem located_matching_of_lt (r : Roster) (t : LookupTable) (writable : Bool)
    (h : ∀ key ∈ r.share t writable, t.addresses.idxOf key < 256) :
    located (r.matching t writable)
      = .ok (t.places (r.share t writable), r.share t writable) := by
  rw [located_eq_ok, matching_eq]
  refine ⟨List.forall_mem_map.mpr h, ?_, ?_⟩
  · rw [List.map_map]
    rfl
  · rw [List.map_map]
    exact (List.map_id _).symm

/-- One place that is too large leaves none at all. -/
theorem located_matching_of_not_lt (r : Roster) (t : LookupTable) (writable : Bool)
    (h : ¬ ∀ key ∈ r.share t writable, t.addresses.idxOf key < 256) :
    located (r.matching t writable) = .error .lookupOverflow := by
  rw [located, if_neg]
  intro hall
  refine h fun key hkey => ?_
  have hmem : (t.addresses.idxOf key, key) ∈ r.matching t writable := by
    rw [matching_eq]
    exact List.mem_map_of_mem hkey
  exact of_decide_eq_true (List.all_eq_true.mp hall _ hmem)

/-- A table whose places fit into bytes hands over its share. -/
theorem extraction?_of_reaches (r : Roster) (t : LookupTable) (h : r.Reaches t) :
    r.extraction? t = .ok (r.handOver t) := by
  rw [extraction?, located_matching_of_lt r t true (h true),
    located_matching_of_lt r t false (h false)]
  by_cases hempty : r.share t true = [] ∧ r.share t false = []
  · rw [handOver, if_pos hempty, hempty.1, hempty.2]
    rfl
  · have hnot : ((r.share t true).isEmpty && (r.share t false).isEmpty) = false := by
      rw [Bool.eq_false_iff, ne_eq, Bool.and_eq_true, List.isEmpty_iff, List.isEmpty_iff]
      exact hempty
    rw [handOver, if_neg hempty]
    simp only [bind, Except.bind, hnot, Bool.false_eq_true, if_false]
    rfl

/-- A table with a place that does not fit fails. -/
theorem extraction?_of_not_reaches (r : Roster) (t : LookupTable) (h : ¬ r.Reaches t) :
    r.extraction? t = .error .lookupOverflow := by
  by_cases htrue : ∀ key ∈ r.share t true, t.addresses.idxOf key < 256
  · have hfalse : ¬ ∀ key ∈ r.share t false, t.addresses.idxOf key < 256 := by
      intro hfalse
      exact h (Bool.forall_bool.mpr ⟨hfalse, htrue⟩)
    rw [extraction?, located_matching_of_lt r t true htrue,
      located_matching_of_not_lt r t false hfalse]
    rfl
  · rw [extraction?, located_matching_of_not_lt r t true htrue]
    rfl

/-- An entry has its key taken over exactly if it does not sign and the table
    holds the key. No other entry has the same key. -/
theorem key_mem_share_iff (r : Roster) (t : LookupTable) (hnodup : r.keys.Nodup) (e : AccountRef)
    (he : e ∈ r.entries) :
    e.key ∈ r.share t true ++ r.share t false ↔
      e.role.signer = false ∧ e.key ∈ t.addresses := by
  have hentry : ∀ writable,
      ⟨e.key, ⟨false, writable⟩⟩ ∈ r.entries ↔ e.role = ⟨false, writable⟩ := by
    intro writable
    refine ⟨fun hmem => ?_, fun hrole => by rw [← hrole]; exact he⟩
    rw [← List.inj_on_of_nodup_map hnodup hmem he rfl]
  rw [List.mem_append, mem_share, mem_share, hentry, hentry, ← or_and_right]
  refine and_congr_left fun _ => ?_
  rcases e with ⟨key, ⟨signer, writable⟩⟩
  cases writable <;> simp only [Role.mk.injEq, Bool.true_eq_false, Bool.false_eq_true, and_true,
    and_false, or_false, false_or]

/-- A table hands over its share, and leaves behind the signers and the keys that
    it does not hold. -/
theorem extract_of_reaches (r : Roster) (t : LookupTable) (hnodup : r.keys.Nodup)
    (h : r.Reaches t) : r.extract t = (.ok (r.handOver t), r.beyond [t]) := by
  have hbeyond : r.without (r.share t true ++ r.share t false) = r.beyond [t] := by
    rw [without, beyond]
    congr 1
    refine List.filter_congr fun e he => ?_
    rw [List.contains_eq_mem, ← decide_not, decide_eq_decide, key_mem_share_iff r t hnodup e he,
      LookupTable.hold_singleton, not_and_or, Bool.not_eq_false]
  rw [extract, extraction?_of_reaches r t h, handOver]
  by_cases hempty : r.share t true = [] ∧ r.share t false = []
  · -- Nothing is taken over, and nothing would be left out.
    rw [hempty.1, hempty.2] at hbeyond
    rw [if_pos hempty, ← hbeyond, without]
    simp only [List.append_nil, List.contains_nil, Bool.not_false, List.filter_true]
  · rw [if_neg hempty]
    exact congrArg (Prod.mk _) hbeyond

theorem nodup_keys_beyond (r : Roster) (tables : List LookupTable) (h : r.keys.Nodup) :
    (r.beyond tables).keys.Nodup :=
  h.sublist ((List.filter_sublist (l := r.entries)).map _)

/-- The first table takes its share from what is there, and the others from what it
    leaves. -/
theorem handOvers_cons (r : Roster) (before rest : List LookupTable) (t : LookupTable) :
    r.handOvers before (t :: rest)
      = ((r.beyond before).handOver t).toList ++ r.handOvers (before ++ [t]) rest := by
  rw [handOvers, LookupTable.turns, List.filterMap_cons]
  cases (r.beyond before).handOver t with
  | none => rfl
  | some x => rfl

/-- Tables in turn hand over their shares of what the tables in front of them
    leave behind. -/
theorem extractAll_of_reaches (r : Roster) (hnodup : r.keys.Nodup)
    (before tables : List LookupTable)
    (h : ∀ turn ∈ LookupTable.turns before tables, (r.beyond turn.1).Reaches turn.2) :
    (r.beyond before).extractAll tables
      = .ok (r.handOvers before tables, r.beyond (before ++ tables)) := by
  induction tables generalizing before with
  | nil => rw [extractAll, handOvers, LookupTable.turns, List.filterMap_nil, List.append_nil]
  | cons t rest ih =>
      rw [LookupTable.turns, List.forall_mem_cons] at h
      have hrest := ih (before ++ [t]) h.2
      rw [List.append_assoc, List.singleton_append] at hrest
      simp only [extractAll, extract_of_reaches _ t (nodup_keys_beyond r before hnodup) h.1,
        beyond_append, hrest, handOvers_cons, bind, Except.bind, pure, Except.pure]

/-- Tables in turn fail if one of them does. -/
theorem extractAll_of_not_reaches (r : Roster) (hnodup : r.keys.Nodup)
    (before tables : List LookupTable)
    (h : ¬ ∀ turn ∈ LookupTable.turns before tables, (r.beyond turn.1).Reaches turn.2) :
    (r.beyond before).extractAll tables = .error .lookupOverflow := by
  induction tables generalizing before with
  | nil => exact absurd (List.forall_mem_nil _) h
  | cons t rest ih =>
      rw [LookupTable.turns, List.forall_mem_cons] at h
      by_cases hfirst : (r.beyond before).Reaches t
      · have hrest := ih (before ++ [t]) fun hall => h ⟨hfirst, hall⟩
        simp only [extractAll, extract_of_reaches _ t (nodup_keys_beyond r before hnodup) hfirst,
          beyond_append, hrest, bind, Except.bind]
      · have hfault : ((r.beyond before).extract t).1 = .error .lookupOverflow :=
          (extract_fst _ t).trans (extraction?_of_not_reaches _ t hfirst)
        simp only [extractAll, hfault, bind, Except.bind]

/-- What tables hand over, with what they leave behind, is what was there. -/
theorem perm_share (r : Roster) (t : LookupTable) :
    ((r.beyond [t]).keys ++ (r.share t true ++ r.share t false)).Perm r.keys := by
  rw [keys, beyond, share, share, ← List.map_append, ← List.map_append]
  refine List.Perm.map _ (List.perm_iff_count.mpr fun e => ?_)
  simp only [List.count_append, count_filter, decide_eq_true_eq, LookupTable.hold_singleton]
  rcases e with ⟨key, ⟨signer, writable⟩⟩
  by_cases hmem : key ∈ t.addresses <;> cases signer <;> cases writable <;>
    simp only [hmem, Role.mk.injEq, not_true_eq_false, not_false_eq_true, or_false, or_true,
      and_true, and_false, Bool.false_eq_true, Bool.true_eq_false, if_true, if_false, Nat.add_zero,
      Nat.zero_add]

-- A table that takes nothing is left out, and then its share is empty anyway.
theorem loaded_handOver (r : Roster) (t : LookupTable) :
    (r.handOver t).toList.flatMap (·.loaded.toList) = r.share t true ++ r.share t false := by
  rw [handOver]
  by_cases hempty : r.share t true = [] ∧ r.share t false = []
  · rw [if_pos hempty, hempty.1, hempty.2]
    rfl
  · rw [if_neg hempty, Option.toList_some, List.flatMap_singleton, LoadedKeys.toList]

/-- Keys are only moved: what several tables hand over, with what all of them
    leave behind, is what was there. -/
theorem perm_handOvers (r : Roster) (before tables : List LookupTable) :
    ((r.beyond (before ++ tables)).keys ++
      (r.handOvers before tables).flatMap (·.loaded.toList)).Perm (r.beyond before).keys := by
  induction tables generalizing before with
  | nil =>
      rw [handOvers, LookupTable.turns, List.filterMap_nil, List.flatMap_nil, List.append_nil,
        List.append_nil]
  | cons t rest ih =>
      have hrest := ih (before ++ [t])
      rw [List.append_assoc, List.singleton_append] at hrest
      have hfirst := perm_share (r.beyond before) t
      rw [beyond_append] at hfirst
      rw [List.perm_iff_count] at hrest hfirst ⊢
      intro key
      have hrest := hrest key
      have hfirst := hfirst key
      rw [handOvers_cons, List.flatMap_append, loaded_handOver]
      simp only [List.count_append] at hrest hfirst ⊢
      omega

end Roster

end Cosigner
