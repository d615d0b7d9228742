import Cosigner.Proofs.Message.Conservation

/-!
# Compiling Again

Decompiling a compiled message does not give the instructions back as they were.
Every account comes back with all flags that any mention of its key asked for, so a
key that was only named in one instruction may come back as a signer there. If a
second compilation took these flags for something new, the message would change each
time that it is read and written, and with it the digest that was agreed on.

It does not change, and the reason is what a compilation looks at. It looks at the
keys in the order in which they are mentioned, and this order decides the order of
the roster. It looks at the flags only to pool them, key by key. Flags that are
already pooled stay as they are when they are pooled again. So two lists of
instructions with the same keys in the same places and the same pooled flags are the
same to a compilation, whether it succeeds or not, and the instructions that come
back are such a list.

## Main definitions

* `Instruction.unflagged`: An instruction without the flags of its accounts.

## Theorems

* `mergedRole_merged`: Pooled flags stay as they are when they are pooled again.
* `Roster.gather_congr`: Keys in order and pooled flags decide the roster.
* `WalletMessage.compile_congr`: They decide the compilation.
* `WalletMessage.compile_decompile`: Compiling what was decompiled.
-/

namespace Cosigner

/-- An instruction whose accounts are only named. -/
def Instruction.unflagged (ix : Instruction) : Instruction :=
  { ix with accounts := ix.accounts.map fun ref => ⟨ref.key, .plain⟩ }

-- What is asked for a key, spelled out by mentions.
theorem asksFor_iff (payer : Address) (ixs : List Instruction) (flag : Role → Bool)
    (key : Address) :
    asksFor payer ixs flag key = true ↔
      key = payer ∨ ∃ ix ∈ ixs, ∃ ref ∈ ix.accounts, ref.key = key ∧ flag ref.role = true := by
  simp only [asksFor, Bool.or_eq_true, decide_eq_true_eq, List.any_eq_true, Bool.and_eq_true]

-- A merged account asks for a flag exactly if some instruction asked for it before.
theorem asksFor_merged (payer : Address) (ixs : List Instruction) (flag : Role → Bool)
    (hflag : ∀ key, flag (mergedRole payer ixs key) = asksFor payer ixs flag key)
    (key : Address) :
    asksFor payer (ixs.map (Instruction.merged payer ixs)) flag key
      = asksFor payer ixs flag key := by
  rw [Bool.eq_iff_iff, asksFor_iff]
  constructor
  · intro h
    rcases h with hpayer | ⟨ix, hix, ref, href, hkey, hasks⟩
    · exact (asksFor_iff payer ixs flag key).mpr (.inl hpayer)
    · rcases List.mem_map.mp hix with ⟨_, _, rfl⟩
      rcases List.mem_map.mp href with ⟨_, _, rfl⟩
      rw [hflag] at hasks
      rw [← hkey]
      exact hasks
  · intro h
    rcases (asksFor_iff payer ixs flag key).mp h with hpayer | ⟨ix, hix, ref, href, hkey, _⟩
    · exact .inl hpayer
    · refine .inr ⟨_, List.mem_map_of_mem hix, _, List.mem_map_of_mem href, hkey, ?_⟩
      rw [hflag, hkey]
      exact h

/-- Merging again changes nothing. -/
theorem mergedRole_merged (payer : Address) (ixs : List Instruction) :
    mergedRole payer (ixs.map (Instruction.merged payer ixs)) = mergedRole payer ixs := by
  funext key
  unfold mergedRole
  rw [asksFor_merged payer ixs Role.signer (fun _ => rfl),
    asksFor_merged payer ixs Role.writable (fun _ => rfl)]

theorem map_unflagged_merged (payer : Address) (ixs : List Instruction) :
    (ixs.map (Instruction.merged payer ixs)).map Instruction.unflagged
      = ixs.map Instruction.unflagged := by
  rw [List.map_map]
  refine List.map_congr_left fun ix _ => ?_
  simp only [Function.comp_apply, Instruction.unflagged, Instruction.merged, List.map_map]
  rfl

-- References without flags name the same keys.
theorem map_key_references (payer : Address) (ixs : List Instruction) :
    (references payer (ixs.map Instruction.unflagged)).map (·.key)
      = (references payer ixs).map (·.key) := by
  have hix : ∀ ix : Instruction,
      ix.unflagged.references.map (·.key) = ix.references.map (·.key) := by
    intro ix
    simp only [Instruction.references, Instruction.unflagged, List.map_cons, List.map_map,
      Function.comp_def]
  simp only [references, List.map_cons, List.map_flatMap, List.flatMap_map, hix]

namespace Roster

/-- A gathered roster lists its keys with the pooled flags. -/
theorem entries_gather (payer : Address) (ixs : List Instruction) :
    (gather payer ixs).entries
      = (gather payer ixs).keys.map fun key => ⟨key, mergedRole payer ixs key⟩ := by
  have hentry : ∀ e ∈ (gather payer ixs).entries, e = ⟨e.key, mergedRole payer ixs e.key⟩ := by
    intro e he
    rw [← ((mem_gather payer ixs e).mp he).2]
  rw [keys, List.map_map]
  exact (List.map_id _).symm.trans (List.map_congr_left hentry)

section Congr

variable (payer : Address) (ixs ixs' : List Instruction)
  (hkeys : ixs.map Instruction.unflagged = ixs'.map Instruction.unflagged)

include hkeys

-- Both rosters have the same keys, and both have them in the order of first mention.
theorem keys_gather_congr : (gather payer ixs).keys = (gather payer ixs').keys := by
  have hnamed : (references payer ixs).map (·.key) = (references payer ixs').map (·.key) := by
    rw [← map_key_references payer ixs, hkeys, map_key_references]
  have hperm : (gather payer ixs).keys.Perm (gather payer ixs').keys := by
    rw [List.perm_ext_iff_of_nodup (nodup_keys_gather payer ixs) (nodup_keys_gather payer ixs')]
    intro key
    rw [mem_keys_gather, mem_keys_gather, mem_mentionedKeys, mem_mentionedKeys, hnamed]
  have hfirst : firstMention payer ixs' = firstMention payer ixs := by
    funext key
    unfold firstMention
    rw [hnamed]
  have hordered := pairwise_gather payer ixs'
  rw [hfirst] at hordered
  exact List.Perm.eq_of_pairwise (fun a b _ _ hab hba => absurd hab (Nat.lt_asymm hba))
    (pairwise_gather payer ixs) hordered hperm

/-- The keys in order and the pooled flags decide the roster. -/
theorem gather_congr (hroles : mergedRole payer ixs = mergedRole payer ixs') :
    gather payer ixs = gather payer ixs' := by
  have hentries : (gather payer ixs).entries = (gather payer ixs').entries := by
    rw [entries_gather, entries_gather, keys_gather_congr payer ixs ixs' hkeys, hroles]
  rw [gather, gather, mk.injEq]
  exact ⟨rfl, hentries⟩

end Congr

end Roster

-- Indexing does not look at flags.
theorem KeySpace.indexAll_unflagged (s : KeySpace) (ixs : List Instruction) :
    s.indexAll (ixs.map Instruction.unflagged) = s.indexAll ixs := by
  have hindex : ∀ ix : Instruction, s.index ix.unflagged = s.index ix := by
    intro ix
    simp only [index, Instruction.unflagged, List.mapM_map, Function.comp_def]
  simp only [indexAll, List.mapM_map, Function.comp_def, hindex]

namespace WalletMessage

/-- The keys in order and the pooled flags decide how a compilation comes out. -/
theorem compile_congr (payer : Address) (ixs ixs' : List Instruction) (tables : List LookupTable)
    (hkeys : ixs.map Instruction.unflagged = ixs'.map Instruction.unflagged)
    (hroles : mergedRole payer ixs = mergedRole payer ixs') :
    compile payer ixs tables = compile payer ixs' tables := by
  have hindex : ∀ s : KeySpace, s.indexAll ixs = s.indexAll ixs' := by
    intro s
    rw [← s.indexAll_unflagged ixs, hkeys, s.indexAll_unflagged]
  simp only [compile, Roster.gather_congr payer ixs ixs' hkeys hroles, hindex]

/-- Compiling what was decompiled gives the message back, with the same header, keys,
    places, data and lookups. -/
theorem compile_decompile (payer : Address) (ixs : List Instruction) (tables : List LookupTable)
    (m : WalletMessage)
    (hagree : ∀ s ∈ tables, ∀ t ∈ tables, s.key = t.key → s.addresses = t.addresses)
    (h : compile payer ixs tables = .ok m) :
    (∃ again, m.decompile tables = .ok again) ∧
      ∀ again, m.decompile tables = .ok again → compile payer again tables = .ok m := by
  have hmerged : m.decompile tables = .ok (ixs.map (Instruction.merged payer ixs)) := by
    refine decompile_of_compile payer ixs tables tables m h fun lookup _ table hmem hkey => ?_
    rw [← hkey]
    exact LookupTable.addresses?_of_mem tables table hmem hagree
  refine ⟨⟨_, hmerged⟩, fun again hagain => ?_⟩
  rw [hmerged, Except.ok.injEq] at hagain
  rw [← hagain, compile_congr payer _ ixs tables (map_unflagged_merged payer ixs)
    (mergedRole_merged payer ixs)]
  exact h

/-- An account that signs in one instruction and is written to in the other comes back
    with both flags in both, and the payer, which is only named, as a writable signer. -/
theorem compile_decompile_moreFlags :
    let key (n : UInt8) : Address := Octets.replicate 32 n
    let ixs : List Instruction := [
      ⟨key 9, [⟨key 2, ⟨true, false⟩⟩, ⟨key 1, .plain⟩], [7]⟩,
      ⟨key 8, [⟨key 3, .plain⟩, ⟨key 2, ⟨false, true⟩⟩, ⟨key 3, ⟨false, true⟩⟩], []⟩]
    let again : List Instruction := [
      ⟨key 9, [⟨key 2, ⟨true, true⟩⟩, ⟨key 1, ⟨true, true⟩⟩], [7]⟩,
      ⟨key 8, [⟨key 3, ⟨false, true⟩⟩, ⟨key 2, ⟨true, true⟩⟩, ⟨key 3, ⟨false, true⟩⟩], []⟩]
    let tables : List LookupTable := [⟨key 20, [key 2, key 3]⟩, ⟨key 21, [key 9, key 3]⟩]
    let m : WalletMessage := {
      header := ⟨2, 2, 0⟩
      keys := [key 1, key 2, key 8]
      instructions := [⟨4, [1, 0], [7]⟩, ⟨2, [3, 1, 3], []⟩]
      lookups := [⟨key 20, [1], []⟩, ⟨key 21, [], [0]⟩] }
    compile (key 1) ixs tables = .ok m ∧ m.decompile tables = .ok again ∧
      compile (key 1) again tables = .ok m := by
  intro key ixs again tables m
  have hm : compile (key 1) ixs tables = .ok m := by decide +kernel
  have hagree : ∀ s ∈ tables, ∀ t ∈ tables, s.key = t.key → s.addresses = t.addresses := by
    decide +kernel
  have hagain : m.decompile tables = .ok again := by decide +kernel
  exact ⟨hm, hagain, (compile_decompile (key 1) ixs tables m hagree hm).2 again hagain⟩

end WalletMessage

end Cosigner
