import Cosigner.Proofs.Message.Decompile
import Cosigner.Proofs.Message.WellFormed

/-!
# Places Are Exact

An instruction is indexed by looking its keys up, one after another: the accounts
from left to right, then the program. A place is written as a byte, and writing a
number that is too large as a byte would silently give another place. Nothing at
the point of writing prevents this. It does not happen because more than 256 keys
are refused before the first key is looked up, so the byte is the place itself.

What happens is then decided by the flat sequence alone. If some key that is looked
up does not occur in it, the first such key is reported, in the order of looking
up and across all instructions. Otherwise every key gets its smallest place; this
needs saying, since nothing keeps a key from occurring in two segments.

If no key occurs twice, a place is determined by its key, and indexing also undoes
resolving. The roles that resolving adds do not matter for this, because indexing
does not look at roles.

## Main definitions

* `Instruction.lookedUp`: The keys of an instruction, in the order of looking up.
* `KeySpace.unknown?`: The first of several keys that does not occur.
* `KeySpace.FirstPlace`: The smallest place of a key.
* `KeySpace.Indexes`: An instruction with the smallest places of its keys.

## Theorems

* `KeySpace.placeOf_eq_ok`: A key is looked up as its smallest place.
* `KeySpace.index_eq_error`: An instruction fails with its first unknown key.
* `KeySpace.indexAll_of_resolveAll`: Indexing undoes resolving.
* `KeySpace.indexAll_exact`: How indexing comes out, in all cases.
-/

namespace Cosigner

/-- The keys that are looked up for an instruction, in this order: its accounts from
    left to right, then its program. -/
def Instruction.lookedUp (ix : Instruction) : List Address :=
  ix.accounts.map (·.key) ++ [ix.program]

namespace KeySpace

/-- The first of several keys that is in no segment. -/
def unknown? (s : KeySpace) (keys : List Address) : Option Address :=
  keys.find? fun key => !s.toList.contains key

/-- The smallest place of a key. It is a byte as it stands, not cut down to one. -/
structure FirstPlace (s : KeySpace) (key : Address) (place : UInt8) : Prop where
  there : s.get? place.toNat = some key
  notBefore : ∀ earlier < place.toNat, s.get? earlier ≠ some key

/-- An instruction with the smallest places of its keys and with the same data. -/
structure Indexes (s : KeySpace) (ix : Instruction) (found : IndexedInstruction) : Prop where
  program : s.FirstPlace ix.program found.program
  accounts : List.Forall₂ (fun ref place => s.FirstPlace ref.key place) ix.accounts
    found.accounts
  data : found.data = ix.data

variable (s : KeySpace)

theorem firstPlace_iff (key : Address) (place : UInt8) :
    s.FirstPlace key place ↔ s.toList.idxOf? key = some place.toNat := by
  rw [List.idxOf?_eq_some_iff]
  constructor
  · intro h
    rcases List.getElem?_eq_some_iff.mp h.there with ⟨hlt, hget⟩
    refine ⟨hlt, hget, fun earlier hearlier hc => h.notBefore earlier hearlier ?_⟩
    exact List.getElem?_eq_some_iff.mpr ⟨Nat.lt_trans hearlier hlt, hc⟩
  · intro h
    rcases h with ⟨hlt, hget, hbefore⟩
    refine ⟨List.getElem?_eq_some_iff.mpr ⟨hlt, hget⟩, fun earlier hearlier hc => ?_⟩
    exact hbefore earlier hearlier (List.getElem?_eq_some_iff.mp hc).2

-- With room for all keys a place is below 256, so the byte loses nothing of it.
theorem placeOf_eq_ok (hroom : s.length ≤ capacity) (key : Address) (place : UInt8) :
    s.placeOf key = .ok place ↔ s.FirstPlace key place := by
  rw [firstPlace_iff]
  unfold placeOf
  cases hidx : s.toList.idxOf? key with
  | none => simp only [reduceCtorEq]
  | some n =>
      rcases List.idxOf?_eq_some_iff.mp hidx with ⟨hlt, _, _⟩
      rw [length_toList] at hlt
      have hbyte : (UInt8.ofNat n).toNat = n :=
        UInt8.toNat_ofNat_of_lt' (Nat.lt_of_lt_of_le hlt hroom)
      simp only [Except.ok.injEq, Option.some.injEq, ← UInt8.toNat_inj, hbyte]

theorem placeOf_eq_error (key : Address) (e : MessageError) :
    s.placeOf key = .error e ↔ (s.unknown? [key]).map .unknownKey = some e := by
  unfold placeOf unknown?
  cases hidx : s.toList.idxOf? key with
  | none =>
      have hnot : s.toList.contains key = false := by
        rw [List.contains_eq_mem, decide_eq_false_iff_not]
        exact List.idxOf?_eq_none_iff.mp hidx
      simp only [List.find?_singleton, hnot, Bool.not_false, if_true, Option.map_some,
        Except.error.injEq, Option.some.injEq]
  | some n =>
      have hmem : s.toList.contains key = true := by
        rw [List.contains_iff_mem, ← List.isSome_idxOf?, hidx, Option.isSome_some]
      simp only [List.find?_singleton, hmem, Bool.not_true, Bool.false_eq_true, if_false,
        Option.map_none, reduceCtorEq]

-- The first unknown key of a list is the first one that is unknown by itself.
theorem findSome?_unknown? (keys : List Address) :
    keys.findSome? (fun key => s.unknown? [key]) = s.unknown? keys := by
  have hguard : (fun key => s.unknown? [key]) = Option.guard fun key => !s.toList.contains key := by
    funext key
    unfold unknown?
    rw [List.find?_singleton, Option.guard]
  rw [hguard, List.findSome?_guard]
  rfl

/-- An instruction fails with the first unknown key among those that are looked up
    for it. -/
theorem index_eq_error (ix : Instruction) (e : MessageError) :
    s.index ix = .error e ↔ (s.unknown? ix.lookedUp).map .unknownKey = some e := by
  have haccounts : ∀ e', ix.accounts.mapM (fun ref => s.placeOf ref.key) = .error e' ↔
      (s.unknown? (ix.accounts.map (·.key))).map .unknownKey = some e' := by
    intro e'
    rw [Outcome.mapM_eq_error_of_fault _ _ fun (ref : AccountRef) => s.placeOf_eq_error ref.key,
      ← s.findSome?_unknown?, List.findSome?_map, List.map_findSome?]
    rfl
  have hsplit : s.unknown? ix.lookedUp
      = (s.unknown? (ix.accounts.map (·.key))).or (s.unknown? [ix.program]) :=
    List.find?_append
  rw [index, hsplit, Option.map_or,
    Outcome.bind_eq_error_of_fault _ _ _ _ haccounts fun places _ e' => ?_]
  rw [Outcome.bind_pure_eq_error, placeOf_eq_error]

/-- Instructions fail with the first unknown key among those that are looked up for any
    of them. -/
theorem mapM_index_eq_error (ixs : List Instruction) (e : MessageError) :
    ixs.mapM s.index = .error e ↔
      (s.unknown? (ixs.flatMap Instruction.lookedUp)).map .unknownKey = some e := by
  have hflat : s.unknown? (ixs.flatMap Instruction.lookedUp)
      = ixs.findSome? fun ix => s.unknown? ix.lookedUp := List.find?_flatMap
  rw [Outcome.mapM_eq_error_of_fault _ _ s.index_eq_error, hflat, List.map_findSome?]
  rfl

/-- An instruction is indexed by the smallest places of its keys. -/
theorem index_eq_ok_iff_indexes (hroom : s.length ≤ capacity) (ix : Instruction)
    (found : IndexedInstruction) : s.index ix = .ok found ↔ s.Indexes ix found := by
  simp only [index_eq_ok, s.placeOf_eq_ok hroom]
  constructor
  · intro h
    exact ⟨h.1, h.2.1, h.2.2⟩
  · intro h
    exact ⟨h.program, h.accounts, h.data⟩

section Distinct

variable (hnodup : s.toList.Nodup)

include hnodup

-- A key that occurs once has no smaller place than the one at hand.
theorem firstPlace_of_nodup (key : Address) (place : UInt8)
    (h : s.toList[place.toNat]? = some key) : s.FirstPlace key place := by
  refine ⟨h, fun earlier hearlier hc => ?_⟩
  have hlt := (List.getElem?_eq_some_iff.mp h).1
  have hsame := (List.getElem?_inj hlt hnodup).mp (h.trans hc.symm)
  omega

/-- Indexing undoes resolving, if no key occurs twice. -/
theorem index_resolve (hroom : s.length ≤ capacity) (header : Header)
    (indexed : IndexedInstruction) (ix : Instruction)
    (h : s.resolve header indexed = .ok ix) : s.index ix = .ok indexed := by
  rcases (s.resolve_eq_ok header indexed ix).mp h with ⟨hprogram, haccounts, hdata⟩
  rw [s.index_eq_ok_iff_indexes hroom]
  refine ⟨s.firstPlace_of_nodup hnodup _ _ hprogram, ?_, hdata.symm⟩
  refine haccounts.flip.imp fun ref place href => ?_
  exact s.firstPlace_of_nodup hnodup _ _ ((s.refAt_eq_ok header place ref).mp href).1

end Distinct

/-- Instructions are indexed one by one, if there is room for all keys. -/
theorem indexAll_eq_ok (ixs : List Instruction) (found : List IndexedInstruction) :
    s.indexAll ixs = .ok found ↔ s.length ≤ capacity ∧ List.Forall₂ s.Indexes ixs found := by
  unfold indexAll
  by_cases hroom : s.length ≤ capacity
  · have hindex : (fun ix found => s.index ix = .ok found) = s.Indexes := by
      funext ix found
      exact propext (s.index_eq_ok_iff_indexes hroom ix found)
    rw [if_neg (Nat.not_lt_of_le hroom), Outcome.mapM_eq_ok, hindex]
    exact ⟨fun h => ⟨hroom, h⟩, fun h => h.2⟩
  · rw [if_pos (Nat.lt_of_not_le hroom)]
    simp only [reduceCtorEq, hroom, false_and]

/-- The only error with room for all keys is the first unknown key. -/
theorem indexAll_eq_error (ixs : List Instruction) (e : MessageError) :
    s.indexAll ixs = .error e ↔ (capacity < s.length ∧ e = .indexOverflow) ∨
      (s.length ≤ capacity ∧ ∃ key, s.unknown? (ixs.flatMap Instruction.lookedUp) = some key ∧
        e = .unknownKey key) := by
  unfold indexAll
  by_cases hfull : capacity < s.length
  · rw [if_pos hfull, Except.error.injEq, eq_comm (b := e)]
    simp only [hfull, true_and, Nat.not_le_of_lt hfull, false_and, or_false]
  · rw [if_neg hfull, mapM_index_eq_error, Option.map_eq_some_iff]
    simp only [hfull, false_and, false_or, Nat.le_of_not_lt hfull, true_and,
      eq_comm (a := e)]

/-- Instructions are indexed if there is room for all keys and none is unknown. -/
theorem indexAll_isOk (ixs : List Instruction) :
    (∃ found, s.indexAll ixs = .ok found) ↔
      s.length ≤ capacity ∧ s.unknown? (ixs.flatMap Instruction.lookedUp) = none := by
  rw [Outcome.isOk_iff]
  simp only [indexAll_eq_error, ne_eq]
  constructor
  · intro h
    have hroom : s.length ≤ capacity := by
      by_contra hfull
      exact h _ (.inl ⟨Nat.lt_of_not_le hfull, rfl⟩)
    refine ⟨hroom, Option.eq_none_iff_forall_ne_some.mpr fun key hkey => ?_⟩
    exact h _ (.inr ⟨hroom, key, hkey, rfl⟩)
  · intro h e he
    rcases he with ⟨hfull, _⟩ | ⟨_, key, hkey, _⟩
    · omega
    · rw [h.2] at hkey
      exact absurd hkey (by simp only [reduceCtorEq, not_false_eq_true])

/-- Indexing gives back what was resolved, if no key occurs twice. -/
theorem indexAll_of_resolveAll (hnodup : s.toList.Nodup) (hroom : s.length ≤ capacity)
    (header : Header) (indexed : List IndexedInstruction) (ixs : List Instruction)
    (h : s.resolveAll header indexed = .ok ixs) : s.indexAll ixs = .ok indexed := by
  have hresolved := (Outcome.mapM_eq_ok _ _ _).mp h
  rw [indexAll_eq_ok]
  refine ⟨hroom, hresolved.flip.imp fun ix found hfound => ?_⟩
  rw [← s.index_eq_ok_iff_indexes hroom]
  exact s.index_resolve hnodup hroom header found ix hfound

/-- How indexing comes out. Too many keys are refused. Otherwise the first key that is
    unknown is reported, in the order of looking up; and otherwise every key gets its
    smallest place. If no key occurs twice, indexing gives back what was resolved. -/
theorem indexAll_exact :
    (∀ ixs, s.indexAll ixs = .error .indexOverflow ↔ 256 < s.length) ∧
      (∀ ixs key, s.indexAll ixs = .error (.unknownKey key) ↔
        s.length ≤ 256 ∧ s.unknown? (ixs.flatMap Instruction.lookedUp) = some key) ∧
      (∀ ixs, (∃ found, s.indexAll ixs = .ok found) ↔
        s.length ≤ 256 ∧ s.unknown? (ixs.flatMap Instruction.lookedUp) = none) ∧
      (∀ ixs found, s.indexAll ixs = .ok found ↔
        s.length ≤ 256 ∧ List.Forall₂ s.Indexes ixs found) ∧
      (s.toList.Nodup → s.length ≤ 256 → ∀ header indexed ixs,
        s.resolveAll header indexed = .ok ixs → s.indexAll ixs = .ok indexed) := by
  refine ⟨fun ixs => ?_, fun ixs key => ?_, s.indexAll_isOk, s.indexAll_eq_ok,
    s.indexAll_of_resolveAll⟩
  · simp only [indexAll_eq_error, capacity, reduceCtorEq, and_false, exists_false, or_false,
      and_true]
  · simp only [indexAll_eq_error, capacity, reduceCtorEq, and_false, false_or,
      MessageError.unknownKey.injEq, exists_eq_right']

-- A key in two segments has its place in the first. Of two unknown keys the account is
-- reported, since the program is looked up behind it.
example :
    let key (n : UInt8) : Address := Octets.replicate 32 n
    let s : KeySpace := ⟨[key 1, key 2], ⟨[key 2], [key 3]⟩⟩
    s.indexAll [⟨key 3, [⟨key 2, .plain⟩], [7]⟩] = .ok [⟨3, [1], [7]⟩] ∧
      s.indexAll [⟨key 8, [⟨key 2, .plain⟩, ⟨key 9, .plain⟩], []⟩]
        = .error (.unknownKey (key 9)) := by
  decide +kernel

end KeySpace

end Cosigner
