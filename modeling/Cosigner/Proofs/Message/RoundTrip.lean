import Cosigner.Proofs.Message.Roster

/-!
# Decompiling a Compiled Message

Compiling writes every address once and replaces it by its place; decompiling
puts addresses back. Nothing about an instruction is lost on the way but one
thing. An instruction says what it may do with an account, while a message says
this once per key, so that what comes back for a key is what all instructions
together ask for.

The argument has one invariant for all three segments of the flat sequence: the
key at a place, with the role that the message gives to the place, is an entry
of the gathered roster. Carried keys satisfy it because of the layout, loaded
ones because of the extraction that loaded them. The roster sums up the
references, so the role of a place depends on the key alone.

What comes back does not depend on the tables that the message was compiled
with but on the tables at hand, as long as these hold the same addresses for the
tables that the message loads from.

## Main definitions

* `asksFor`: Whether a payer and instructions ask for a flag on a key.
* `mergedRole`: The role of a key after all that is asked for it.
* `Instruction.merged`: An instruction with merged roles.
* `KeySpace.Assigns`: A key space whose places have the roles of their keys.

## Theorems

* `KeySpace.resolve_index`: Addresses come back from their places.
* `WalletMessage.compile_assigns`: A compiled message has merged roles.
* `WalletMessage.loadedKeys_compile`: The loaded keys are found again.
* `WalletMessage.decompile_of_loadedKeys`: Decompiling with what was taken over.
* `WalletMessage.decompile_of_compile`: Decompiling with tables at hand.
* `WalletMessage.decompile_compile`: Decompiling with the tables themselves.
-/

namespace Cosigner

/-- Whether a payer and instructions ask for a flag on a key: the key pays, or it
    is an account with this flag of some instruction. -/
def asksFor (payer : Address) (ixs : List Instruction) (flag : Role → Bool) (key : Address) :
    Bool :=
  key = payer || ixs.any fun ix => ix.accounts.any fun ref => ref.key = key && flag ref.role

/-- The role of a key after all that a payer and instructions ask for it. -/
def mergedRole (payer : Address) (ixs : List Instruction) (key : Address) : Role :=
  ⟨asksFor payer ixs Role.signer key, asksFor payer ixs Role.writable key⟩

/-- An instruction whose accounts have the roles that all instructions together
    ask for. -/
def Instruction.merged (payer : Address) (ixs : List Instruction) (ix : Instruction) :
    Instruction :=
  { ix with accounts := ix.accounts.map fun ref => ⟨ref.key, mergedRole payer ixs ref.key⟩ }

-- A payer counts as a mention with both flags, a program as one with none.
theorem any_references (payer : Address) (ixs : List Instruction) (key : Address)
    (flag : Role → Bool) (hpayer : flag .payer = true) (hplain : flag .plain = false) :
    ((references payer ixs).any fun r => r.key = key && flag r.role)
      = asksFor payer ixs flag key := by
  have hix : ∀ ix : Instruction, (ix.references.any fun r => r.key = key && flag r.role)
      = ix.accounts.any fun ref => ref.key = key && flag ref.role := by
    intro ix
    simp only [Instruction.references, List.any_cons, hplain, Bool.and_false, Bool.false_or]
  have hpays : decide (payer = key) = decide (key = payer) := decide_eq_decide.mpr eq_comm
  simp only [references, List.any_cons, hpayer, Bool.and_true, List.any_flatMap, hix, asksFor,
    hpays]

/-- Pooling the references of a payer and instructions merges what they ask for. -/
theorem pooled_references (payer : Address) (ixs : List Instruction) (key : Address) :
    pooled (references payer ixs) key = mergedRole payer ixs key := by
  rw [pooled, mergedRole, any_references payer ixs key Role.signer rfl rfl,
    any_references payer ixs key Role.writable rfl rfl]

namespace KeySpace

theorem length_toList (s : KeySpace) : s.toList.length = s.length := by
  simp only [toList, length, LoadedKeys.toList, LoadedKeys.length, List.length_append]

/-- The places of a key space have the roles that a function gives to their
    keys. -/
def Assigns (s : KeySpace) (header : Header) (roleOf : Address → Role) : Prop :=
  ∀ place key, s.toList[place]? = some key → s.role header place = roleOf key

/-- The place of a key names it, if all places fit into a byte. -/
theorem get?_of_placeOf (s : KeySpace) (hroom : s.length ≤ capacity) (key : Address)
    (place : UInt8) (h : s.placeOf key = .ok place) : s.toList[place.toNat]? = some key := by
  unfold placeOf at h
  cases hidx : s.toList.idxOf? key with
  | none => simp only [hidx, reduceCtorEq] at h
  | some n =>
      simp only [hidx, Except.ok.injEq] at h
      rcases List.idxOf?_eq_some_iff.mp hidx with ⟨hlt, hget, _⟩
      have hsmall : n < 256 := by
        rw [length_toList] at hlt
        exact Nat.lt_of_lt_of_le hlt hroom
      rw [← h, UInt8.toNat_ofNat_of_lt' hsmall, List.getElem?_eq_getElem hlt, hget]

/-- At the place of a key, the key is found. -/
theorem keyAt_placeOf (s : KeySpace) (hroom : s.length ≤ capacity) (key : Address)
    (place : UInt8) (h : s.placeOf key = .ok place) : s.keyAt place = .ok key := by
  simp only [keyAt, get?, get?_of_placeOf s hroom key place h]

/-- At the place of a key, the key is found with the role that places give it. -/
theorem refAt_placeOf (s : KeySpace) (header : Header) (roleOf : Address → Role)
    (hroles : s.Assigns header roleOf) (hroom : s.length ≤ capacity) (key : Address)
    (place : UInt8) (h : s.placeOf key = .ok place) :
    s.refAt header place = .ok ⟨key, roleOf key⟩ := by
  rw [refAt, keyAt_placeOf s hroom key place h,
    ← hroles place.toNat key (get?_of_placeOf s hroom key place h)]
  rfl

/-- Addresses come back from their places, with the roles of the places. -/
theorem resolve_index (s : KeySpace) (header : Header) (roleOf : Address → Role)
    (hroles : s.Assigns header roleOf) (hroom : s.length ≤ capacity) (ix : Instruction)
    (compiled : IndexedInstruction) (h : s.index ix = .ok compiled) :
    s.resolve header compiled
      = .ok { ix with accounts := ix.accounts.map fun ref => ⟨ref.key, roleOf ref.key⟩ } := by
  rcases (Outcome.bind_eq_ok _ _ _).mp h with ⟨places, hplaces, h⟩
  rcases (Outcome.bind_eq_ok _ _ _).mp h with ⟨program, hprogram, h⟩
  rw [Outcome.pure_eq_ok] at h
  rw [← h]
  have haccounts : places.mapM (s.refAt header)
      = .ok (ix.accounts.map fun ref => ⟨ref.key, roleOf ref.key⟩) := by
    rw [Outcome.mapM_eq_ok, List.forall₂_map_right_iff]
    rw [Outcome.mapM_eq_ok] at hplaces
    refine hplaces.flip.imp (fun place ref hplace => ?_)
    exact refAt_placeOf s header roleOf hroles hroom ref.key place hplace
  rw [resolve, keyAt_placeOf s hroom ix.program program hprogram]
  simp only [haccounts, bind, Except.bind, pure, Except.pure]

/-- The same for instructions in a row. -/
theorem resolveAll_indexAll (s : KeySpace) (header : Header) (roleOf : Address → Role)
    (hroles : s.Assigns header roleOf) (ixs : List Instruction)
    (compiled : List IndexedInstruction) (h : s.indexAll ixs = .ok compiled) :
    s.resolveAll header compiled = .ok (ixs.map fun ix =>
      { ix with accounts := ix.accounts.map fun ref => ⟨ref.key, roleOf ref.key⟩ }) := by
  unfold indexAll at h
  by_cases hroom : capacity < s.length
  · simp only [hroom, if_true, reduceCtorEq] at h
  · rw [if_neg hroom, Outcome.mapM_eq_ok] at h
    rw [resolveAll, Outcome.mapM_eq_ok, List.forall₂_map_right_iff]
    refine h.flip.imp (fun c ix hix => ?_)
    exact resolve_index s header roleOf hroles (by omega) ix c hix

end KeySpace

/-- The entries of a table among tables that agree wherever they share a key. -/
theorem LookupTable.addresses?_of_mem (tables : List LookupTable) (table : LookupTable)
    (hmem : table ∈ tables)
    (hagree : ∀ s ∈ tables, ∀ t ∈ tables, s.key = t.key → s.addresses = t.addresses) :
    LookupTable.addresses? tables table.key = some table.addresses := by
  rw [LookupTable.addresses?, List.findRev?_eq_findRev?TR, List.findRev?TR]
  cases hfind : tables.reverse.find? (fun t => t.key = table.key) with
  | none =>
      have hne := List.find?_eq_none.mp hfind table (List.mem_reverse.mpr hmem)
      exact absurd (decide_eq_true rfl) hne
  | some found =>
      have hkey := List.find?_some hfind
      rw [decide_eq_true_iff] at hkey
      have hfound : found ∈ tables := List.mem_reverse.mp (List.mem_of_find?_eq_some hfind)
      rw [Option.map_some, hagree found hfound table hmem hkey]

namespace WalletMessage

/-- The steps of a compilation that succeeds. -/
theorem compile_eq_ok (payer : Address) (ixs : List Instruction) (tables : List LookupTable)
    (m : WalletMessage) (h : compile payer ixs tables = .ok m) :
    ∃ xs last, (Roster.gather payer ixs).extractAll tables = .ok (xs, last) ∧
      last.layout = .ok (m.header, m.keys) ∧
      (KeySpace.mk m.keys (LoadedKeys.concat (xs.map (·.loaded)))).indexAll ixs
        = .ok m.instructions ∧
      m.lookups = xs.map (·.lookup) := by
  rcases (Outcome.bind_eq_ok _ _ _).mp h with ⟨⟨xs, last⟩, hxs, h⟩
  rcases (Outcome.bind_eq_ok _ _ _).mp h with ⟨⟨header, keys⟩, hlayout, h⟩
  rcases (Outcome.bind_eq_ok _ _ _).mp h with ⟨instructions, hindex, h⟩
  rw [Outcome.pure_eq_ok] at h
  rw [← h]
  exact ⟨xs, last, hxs, hlayout, hindex, rfl⟩

theorem loadEntry_eq_ok (table : Address) (addresses : List Address) (index : UInt8)
    (key : Address) :
    loadEntry table addresses index = .ok key ↔ addresses[index.toNat]? = some key := by
  unfold loadEntry
  cases addresses[index.toNat]? with
  | none => simp only [reduceCtorEq]
  | some found => simp only [Except.ok.injEq, Option.some.injEq]

/-- A lookup loads the keys that stand at its entries. -/
theorem load_eq_ok (known : List LookupTable) (l : TableLookup) (loaded : LoadedKeys) :
    load known l = .ok loaded ↔
      ∃ addresses, LookupTable.addresses? known l.table = some addresses ∧
        List.Forall₂ (fun index key => addresses[index.toNat]? = some key) l.writable
          loaded.writable ∧
        List.Forall₂ (fun index key => addresses[index.toNat]? = some key) l.readonly
          loaded.readonly := by
  unfold load
  cases LookupTable.addresses? known l.table with
  | none => simp only [reduceCtorEq, false_and, exists_false]
  | some addresses =>
      simp only [Outcome.bind_eq_ok, Outcome.mapM_eq_ok, Outcome.pure_eq_ok, loadEntry_eq_ok,
        Option.some.injEq, exists_eq_left']
      constructor
      · intro h
        rcases h with ⟨_, hwritable, _, hreadonly, rfl⟩
        exact ⟨hwritable, hreadonly⟩
      · intro h
        exact ⟨_, h.1, _, h.2, rfl⟩

/-- The loaded keys of a compiled message are found again, if the tables at hand
    agree with those that it was compiled with. -/
theorem loadedKeys_compile (m : WalletMessage) (known tables : List LookupTable)
    (xs : List Extraction) (r : Roster) (hlookups : m.lookups = xs.map (·.lookup))
    (hsound : ∀ x ∈ xs, ∃ table ∈ tables, x.Sound r table)
    (hknown : ∀ lookup ∈ m.lookups, ∀ table ∈ tables, table.key = lookup.table →
      LookupTable.addresses? known lookup.table = some table.addresses) :
    m.loadedKeys known = .ok (LoadedKeys.concat (xs.map (·.loaded))) := by
  refine (Outcome.bind_eq_ok _ _ _).mpr ⟨xs.map (·.loaded), ?_, rfl⟩
  rw [Outcome.mapM_eq_ok, hlookups, List.forall₂_map_left_iff, List.forall₂_map_right_iff,
    List.forall₂_same]
  intro x hx
  rcases hsound x hx with ⟨table, hmem, hfits⟩
  have hlookup : x.lookup ∈ m.lookups := by
    rw [hlookups]
    exact List.mem_map_of_mem hx
  exact (load_eq_ok known x.lookup x.loaded).mpr ⟨table.addresses,
    hknown x.lookup hlookup table hmem hfits.named.symm, hfits.writableNamed, hfits.readonlyNamed⟩

/-- The places of a compiled message have the roles that the roster sums up. -/
theorem compile_assigns (r last : Roster) (mentions : List AccountRef) (header : Header)
    (keys : List Address) (tables : List LookupTable) (xs : List Extraction)
    (htallies : Tallies r.entries mentions) (hxs : r.extractAll tables = .ok (xs, last))
    (hlayout : last.layout = .ok (header, keys)) :
    (KeySpace.mk keys (LoadedKeys.concat (xs.map (·.loaded)))).Assigns header
      (pooled mentions) := by
  intro place key hkey
  rcases Roster.extractAll_sound r last tables xs hxs with ⟨hlast, hsound⟩
  -- It is enough that the key, with the role of its place, is an entry.
  suffices hentry : ⟨key, (KeySpace.mk keys (LoadedKeys.concat (xs.map (·.loaded)))).role header
      place⟩ ∈ r.entries from htallies.role _ hentry
  unfold KeySpace.role
  rcases getElem?_append_cases _ _ place key hkey with ⟨hlt, hkey⟩ | ⟨hge, hkey⟩
  · rw [if_pos hlt]
    exact hlast (Roster.layout_role last header keys hlayout place key hkey)
  · rw [if_neg (by omega)]
    rcases getElem?_append_cases _ _ _ key hkey with ⟨hlt, hkey⟩ | ⟨hge, hkey⟩
    · -- Loaded writable, by some extraction.
      rw [decide_eq_true hlt]
      rcases List.mem_flatMap.mp (List.mem_of_getElem? hkey) with ⟨l, hl, hmem⟩
      rcases List.mem_map.mp hl with ⟨x, hx, rfl⟩
      rcases hsound x hx with ⟨table, _, hfits⟩
      exact hfits.writableRole key hmem
    · -- Loaded readonly, by some extraction.
      rw [decide_eq_false (by omega)]
      rcases List.mem_flatMap.mp (List.mem_of_getElem? hkey) with ⟨l, hl, hmem⟩
      rcases List.mem_map.mp hl with ⟨x, hx, rfl⟩
      rcases hsound x hx with ⟨table, _, hfits⟩
      exact hfits.readonlyRole key hmem

/-- A compiled message decompiles to the instructions with merged roles, if what it
    loads is what the extractions took over. -/
theorem decompile_of_loadedKeys (payer : Address) (ixs : List Instruction)
    (known tables : List LookupTable) (m : WalletMessage) (xs : List Extraction) (last : Roster)
    (hxs : (Roster.gather payer ixs).extractAll tables = .ok (xs, last))
    (hlayout : last.layout = .ok (m.header, m.keys))
    (hindex : (KeySpace.mk m.keys (LoadedKeys.concat (xs.map (·.loaded)))).indexAll ixs
      = .ok m.instructions)
    (hloaded : m.loadedKeys known = .ok (LoadedKeys.concat (xs.map (·.loaded)))) :
    m.decompile known = .ok (ixs.map (Instruction.merged payer ixs)) := by
  have hassigns := compile_assigns _ last _ m.header m.keys tables xs
    (Roster.tallies_gather payer ixs) hxs hlayout
  have hroles : pooled (references payer ixs) = mergedRole payer ixs :=
    funext (pooled_references payer ixs)
  rw [hroles] at hassigns
  refine (Outcome.bind_eq_ok _ _ _).mpr ⟨_, hloaded, ?_⟩
  exact KeySpace.resolveAll_indexAll _ m.header _ hassigns ixs m.instructions hindex

/-- This is so if the tables at hand agree with those that it was compiled with. -/
theorem decompile_of_compile (payer : Address) (ixs : List Instruction)
    (known tables : List LookupTable) (m : WalletMessage)
    (h : compile payer ixs tables = .ok m)
    (hknown : ∀ lookup ∈ m.lookups, ∀ table ∈ tables, table.key = lookup.table →
      LookupTable.addresses? known lookup.table = some table.addresses) :
    m.decompile known = .ok (ixs.map (Instruction.merged payer ixs)) := by
  rcases compile_eq_ok payer ixs tables m h with ⟨xs, last, hxs, hlayout, hindex, hlookups⟩
  have hsound := (Roster.extractAll_sound _ last tables xs hxs).2
  have hloaded := loadedKeys_compile m known tables xs _ hlookups hsound hknown
  exact decompile_of_loadedKeys payer ixs known tables m xs last hxs hlayout hindex hloaded

/-- Compiling and then decompiling with the same tables gives every instruction
    back: the same program, data and accounts in the same order, each account
    with exactly the flags that the payer and all instructions together ask for
    on its key. -/
theorem decompile_compile (payer : Address) (ixs : List Instruction)
    (tables : List LookupTable) (m : WalletMessage)
    (hagree : ∀ s ∈ tables, ∀ t ∈ tables, s.key = t.key → s.addresses = t.addresses)
    (h : compile payer ixs tables = .ok m) :
    m.decompile tables = .ok (ixs.map (Instruction.merged payer ixs)) := by
  refine decompile_of_compile payer ixs tables tables m h (fun lookup _ table hmem hkey => ?_)
  rw [← hkey]
  exact LookupTable.addresses?_of_mem tables table hmem hagree

/-- Two instructions that share two accounts under different flags, and two tables
    that overlap: one account signs in the first instruction and is writable in
    the second, and comes back with both flags in both. -/
theorem decompile_compile_shared :
    let key (n : UInt8) : Address := Octets.replicate 32 n
    let ixs : List Instruction := [
      ⟨key 9, [⟨key 2, ⟨true, false⟩⟩, ⟨key 3, ⟨false, true⟩⟩], [7]⟩,
      ⟨key 8, [⟨key 3, .plain⟩, ⟨key 4, .plain⟩, ⟨key 2, ⟨false, true⟩⟩], []⟩]
    let tables : List LookupTable := [⟨key 20, [key 4, key 3]⟩, ⟨key 21, [key 9, key 4]⟩]
    let m : WalletMessage := {
      header := ⟨2, 2, 0⟩
      keys := [key 1, key 2, key 8]
      instructions := [⟨5, [1, 3], [7]⟩, ⟨2, [3, 4, 1], []⟩]
      lookups := [⟨key 20, [1], [0]⟩, ⟨key 21, [], [0]⟩] }
    compile (key 1) ixs tables = .ok m ∧
      m.decompile tables = .ok [
        ⟨key 9, [⟨key 2, ⟨true, true⟩⟩, ⟨key 3, ⟨false, true⟩⟩], [7]⟩,
        ⟨key 8, [⟨key 3, ⟨false, true⟩⟩, ⟨key 4, .plain⟩, ⟨key 2, ⟨true, true⟩⟩], []⟩] := by
  intro key ixs tables m
  have hm : compile (key 1) ixs tables = .ok m := by decide +kernel
  have hagree : ∀ s ∈ tables, ∀ t ∈ tables, s.key = t.key → s.addresses = t.addresses := by
    decide +kernel
  refine ⟨hm, ?_⟩
  rw [decompile_compile (key 1) ixs tables m hagree hm]
  decide +kernel

end WalletMessage

end Cosigner
