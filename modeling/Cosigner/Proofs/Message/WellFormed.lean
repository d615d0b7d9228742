import Cosigner.Proofs.Message.Capacity

/-!
# What a Compiled Message Looks Like

Whoever executes a compiled message relies on more than that it decompiles. Every
key has one place, so that the two ways of naming an account cannot come apart.
The counts of the header stay within the carried keys. Signers are carried,
since a loaded key cannot sign. And tables are made use of: a key that does not
sign and that some table holds is never carried.

`WalletMessage.WellFormed` collects these properties. A lookup only has indexes, so
what a message loads depends on the tables; a loading is the keys that a lookup
stands for, with the table that they come from, and the properties are about the
carried keys and the loadings together.

They follow from what was shown about rosters. The places of a compilation are a
permutation of the keys of the roster, and what a table hands over is its share
of what the tables in front of it leave behind. So a key that does not sign and
that some table holds is handed over in the turn of the first such table, and
then it is not left to be carried.

## Main definitions

* `Loading`: A table with the keys that a lookup loads from it.
* `TableLookup.Loads`: A lookup that stands for a loading.
* `LoadsFrom`: A table that a compilation loads from.
* `WalletMessage.space`: The keys of a message, given its loadings.
* `WalletMessage.WellFormed`: A message that fits its instructions and tables.
* `WalletMessage.loadings`: The loadings of a compilation.

## Theorems

* `KeySpace.lt_of_indexAll`: Indexed instructions name places that have keys.
* `Roster.handOvers_eq_map`: What tables hand over, turn by turn.
* `Roster.loads_loadingOf`: A lookup stands for what is loaded in its turn.
* `Roster.headerOf_counts`: The counts stay within the carried keys.
* `WalletMessage.mem_loadings`: Keys are loaded from the first table that holds
  them.
* `WalletMessage.forall₂_loads`: Lookups stand for loadings.
* `WalletMessage.loadedKeys_of_loads`: Loadings are what a message loads.
* `WalletMessage.decompile_of_loadings`: Decompiling with the tables that a message
  loads from.
* `WalletMessage.compile_wellFormed`: Compiled messages are well-formed.
-/

namespace Cosigner

/-- A lookup table with the keys that one lookup loads from it. -/
structure Loading where
  /-- The table. -/
  table : LookupTable
  /-- The keys. -/
  keys : LoadedKeys

/-- A lookup that stands for a loading: it is not empty, and its indexes are the
    first places of the keys in the table. -/
structure TableLookup.Loads (l : TableLookup) (loading : Loading) : Prop where
  named : l.table = loading.table.key
  nonempty : l.writable ≠ [] ∨ l.readonly ≠ []
  writable : List.Forall₂ (fun index key => loading.table.addresses.idxOf? key = some index.toNat)
    l.writable loading.keys.writable
  readonly : List.Forall₂ (fun index key => loading.table.addresses.idxOf? key = some index.toNat)
    l.readonly loading.keys.readonly

/-- A table that a compilation loads from: it holds a mentioned key that does not
    sign and that no table in front of it holds. -/
def LoadsFrom (payer : Address) (ixs : List Instruction) (tables : List LookupTable)
    (t : LookupTable) : Prop :=
  ∃ before after, tables = before ++ t :: after ∧
    ∃ key ∈ mentionedKeys payer ixs, asksFor payer ixs Role.signer key = false ∧
      (∀ u ∈ before, key ∉ u.addresses) ∧ key ∈ t.addresses

theorem LoadsFrom.mem {payer : Address} {ixs : List Instruction} {tables : List LookupTable}
    {t : LookupTable} (h : LoadsFrom payer ixs tables t) : t ∈ tables := by
  rcases h with ⟨before, after, htables, _⟩
  rw [htables]
  exact List.mem_append_right before List.mem_cons_self

namespace WalletMessage

/-- The keys of a message, given what its lookups load. -/
def space (m : WalletMessage) (loadings : List Loading) : KeySpace :=
  ⟨m.keys, .concat (loadings.map (·.keys))⟩

/-- A message that fits a payer, instructions and tables. -/
structure WellFormed (payer : Address) (ixs : List Instruction) (tables : List LookupTable)
    (m : WalletMessage) (loadings : List Loading) : Prop where
  -- The lookups stand for loadings from supplied tables, in the order of these.
  lookups : List.Forall₂ TableLookup.Loads m.lookups loadings
  inOrder : (loadings.map (·.table)).Sublist tables
  -- The payer comes first.
  payerFirst : m.keys.head? = some payer
  -- The keys are the mentioned ones, each once, and have a place each.
  nodup : (m.space loadings).toList.Nodup
  mem : ∀ key, key ∈ (m.space loadings).toList ↔ key ∈ mentionedKeys payer ixs
  room : (m.space loadings).length ≤ 256
  -- The counts of the header stay within the carried keys.
  someWritableSigner : 1 ≤ m.header.writableSigners.toNat
  writableSigners : m.header.writableSigners.toNat ≤ m.header.signers.toNat
  signers : m.header.signers.toNat ≤ m.keys.length
  writableNonSigners :
    m.header.signers.toNat + m.header.writableNonSigners.toNat ≤ m.keys.length
  -- Instructions name places that have keys.
  places : ∀ ix ∈ m.instructions, ix.program.toNat < (m.space loadings).length ∧
    ∀ place ∈ ix.accounts, place.toNat < (m.space loadings).length
  -- Signers, and so the payer, are not loaded.
  signersCarried : ∀ loading ∈ loadings, ∀ key ∈ loading.keys.toList, key ∉ signingKeys payer ixs
  -- Other keys are loaded if they can be: from the first table that holds them,
  -- writable exactly if some instruction asks for it.
  tablesUsed : ∀ key ∈ mentionedKeys payer ixs, key ∉ signingKeys payer ixs →
    ∀ t, tables.find? (fun t => key ∈ t.addresses) = some t →
      key ∉ m.keys ∧ ∃ loading ∈ loadings, loading.table = t ∧
        (key ∈ loading.keys.writable ↔ asksFor payer ixs Role.writable key = true) ∧
        (key ∈ loading.keys.readonly ↔ asksFor payer ixs Role.writable key = false)

end WalletMessage

namespace KeySpace

variable (s : KeySpace)

/-- An instruction is indexed by the places of its keys. -/
theorem index_eq_ok (ix : Instruction) (compiled : IndexedInstruction) :
    s.index ix = .ok compiled ↔ s.placeOf ix.program = .ok compiled.program ∧
      List.Forall₂ (fun ref place => s.placeOf ref.key = .ok place) ix.accounts
        compiled.accounts ∧
      compiled.data = ix.data := by
  simp only [index, Outcome.bind_eq_ok, Outcome.mapM_eq_ok, Outcome.pure_eq_ok]
  constructor
  · intro h
    rcases h with ⟨accounts, haccounts, program, hprogram, rfl⟩
    exact ⟨hprogram, haccounts, rfl⟩
  · intro h
    rcases h with ⟨hprogram, haccounts, hdata⟩
    exact ⟨_, haccounts, _, hprogram, by rw [← hdata]⟩

/-- A place is below the number of keys. -/
theorem lt_of_placeOf (hroom : s.length ≤ capacity) (key : Address) (place : UInt8)
    (h : s.placeOf key = .ok place) : place.toNat < s.length := by
  rw [← s.length_toList]
  exact (List.getElem?_eq_some_iff.mp (s.get?_of_placeOf hroom key place h)).1

end KeySpace

/-- The places of keys that a table reaches are their first places. -/
theorem LookupTable.forall₂_places (t : LookupTable) (keys : List Address)
    (hmem : ∀ key ∈ keys, key ∈ t.addresses)
    (hreach : ∀ key ∈ keys, t.addresses.idxOf key < 256) :
    List.Forall₂ (fun index key => t.addresses.idxOf? key = some index.toNat) (t.places keys)
      keys := by
  rw [places, List.forall₂_map_left_iff, List.forall₂_same]
  intro key hkey
  rw [t.idxOf?_of_mem key (hmem key hkey), UInt8.toNat_ofNat_of_lt' (hreach key hkey)]

namespace Roster

/-- The turns in which a table takes something over. -/
def activeTurns (r : Roster) (tables : List LookupTable) :
    List (List LookupTable × LookupTable) :=
  (LookupTable.turns [] tables).filter fun turn =>
    ¬ ((r.beyond turn.1).share turn.2 true = [] ∧ (r.beyond turn.1).share turn.2 false = [])

/-- What is loaded in a turn. -/
def loadingOf (r : Roster) (turn : List LookupTable × LookupTable) : Loading :=
  ⟨turn.2, (r.beyond turn.1).share turn.2 true, (r.beyond turn.1).share turn.2 false⟩

/-- Tables hand over what is loaded in their turns, with the places of the keys. -/
theorem handOvers_eq_map (r : Roster) (tables : List LookupTable) :
    r.handOvers [] tables = (r.activeTurns tables).map fun turn =>
      ⟨⟨turn.2.key, turn.2.places (r.loadingOf turn).keys.writable,
        turn.2.places (r.loadingOf turn).keys.readonly⟩, (r.loadingOf turn).keys⟩ := by
  rw [activeTurns, ← List.filterMap_eq_map, List.filterMap_filter, handOvers]
  refine List.filterMap_congr fun turn _ => ?_
  by_cases hempty : (r.beyond turn.1).share turn.2 true = [] ∧
      (r.beyond turn.1).share turn.2 false = []
  · rw [handOver, if_pos hempty, if_neg (by simp only [hempty, and_self, not_true_eq_false,
      decide_false, Bool.false_eq_true, not_false_eq_true])]
  · rw [handOver, if_neg hempty, if_pos (decide_eq_true hempty)]
    rfl

theorem map_table_loadings (r : Roster) (tables : List LookupTable) :
    (((r.activeTurns tables).map r.loadingOf).map (·.table)).Sublist tables := by
  have hturns : ∀ before, (LookupTable.turns before tables).map Prod.snd = tables := by
    induction tables with
    | nil => exact fun _ => rfl
    | cons t rest ih => exact fun before => congrArg (t :: ·) (ih (before ++ [t]))
  have hsub := (List.filter_sublist (l := LookupTable.turns [] tables)
    (p := fun turn => ¬ ((r.beyond turn.1).share turn.2 true = [] ∧
      (r.beyond turn.1).share turn.2 false = []))).map Prod.snd
  rw [hturns] at hsub
  rw [List.map_map]
  exact hsub

/-- What a table that reaches its keys hands over in its turn stands for what is
    loaded. -/
theorem loads_loadingOf (r : Roster) (turn : List LookupTable × LookupTable)
    (hreaches : (r.beyond turn.1).Reaches turn.2)
    (hactive : ¬ ((r.beyond turn.1).share turn.2 true = [] ∧
      (r.beyond turn.1).share turn.2 false = [])) :
    TableLookup.Loads ⟨turn.2.key, turn.2.places (r.loadingOf turn).keys.writable,
      turn.2.places (r.loadingOf turn).keys.readonly⟩ (r.loadingOf turn) := by
  have hheld : ∀ writable, ∀ key ∈ (r.beyond turn.1).share turn.2 writable,
      key ∈ turn.2.addresses := by
    intro writable key hkey
    exact ((mem_share _ _ _ _).mp hkey).2
  refine ⟨rfl, ?_, turn.2.forall₂_places _ (hheld true) (hreaches true),
    turn.2.forall₂_places _ (hheld false) (hreaches false)⟩
  simp only [LookupTable.places, ne_eq, List.map_eq_nil_iff]
  exact not_and_or.mp hactive

/-- The counts of a header stay within the carried keys. -/
theorem headerOf_counts (r : Roster) (hpayer : r.PayerFirst) (hlength : r.length ≤ 256)
    (hsigners : r.signerCount ≤ 255) :
    1 ≤ r.headerOf.writableSigners.toNat ∧
      r.headerOf.writableSigners.toNat ≤ r.headerOf.signers.toNat ∧
      r.headerOf.signers.toNat + r.headerOf.writableNonSigners.toNat ≤ r.carriedKeys.length := by
  have hgroups := r.length_groups
  have hone := hpayer.one_le_writableSigners
  have hcarried : r.carriedKeys.length = r.length :=
    r.perm_carriedKeys.length_eq.trans (List.length_map _)
  rw [signerCount] at hgroups hsigners
  have hfirst : (r.group ⟨true, true⟩).length < 256 := by omega
  have hwritable : (r.group ⟨false, true⟩).length < 256 := by omega
  rw [headerOf, UInt8.toNat_ofNat_of_lt' (Nat.lt_succ_of_le hsigners),
    UInt8.toNat_ofNat_of_lt' hfirst, UInt8.toNat_ofNat_of_lt' hwritable]
  omega

/-- The payer is the first carried key. -/
theorem PayerFirst.head?_carriedKeys {r : Roster} (h : r.PayerFirst) :
    r.carriedKeys.head? = some r.payer := by
  rcases List.head?_eq_some_iff.mp h.head?_group with ⟨rest, hgroup⟩
  rw [carriedKeys, hgroup]
  rfl

end Roster

namespace KeySpace

/-- Indexed instructions name places that have keys. -/
theorem lt_of_indexAll (s : KeySpace) (ixs : List Instruction)
    (compiled : List IndexedInstruction) (h : s.indexAll ixs = .ok compiled) :
    ∀ ix ∈ compiled, ix.program.toNat < s.length ∧ ∀ place ∈ ix.accounts,
      place.toNat < s.length := by
  rw [indexAll, Outcome.ite_error_eq_ok, Outcome.mapM_eq_ok] at h
  rcases h with ⟨hroom, hall⟩
  have hroom : s.length ≤ capacity := Nat.le_of_not_lt hroom
  intro c hc
  rcases Outcome.mem_of_forall₂_right _ _ _ hall c hc with ⟨ix, _, hindex⟩
  rcases (s.index_eq_ok ix c).mp hindex with ⟨hprogram, haccounts, _⟩
  refine ⟨s.lt_of_placeOf hroom _ _ hprogram, fun place hplace => ?_⟩
  rcases Outcome.mem_of_forall₂_right _ _ _ haccounts place hplace with ⟨ref, _, hat⟩
  exact s.lt_of_placeOf hroom _ _ hat

end KeySpace

namespace WalletMessage

variable (payer : Address) (ixs : List Instruction) (tables : List LookupTable)

/-- The parts of a compiled message, said of the gathered roster. -/
theorem parts_of_compile (m : WalletMessage) (h : compile payer ixs tables = .ok m) :
    ¬ OutOfReach payer ixs tables ∧ (remainingKeys payer ixs tables).card ≤ 256 ∧
      (signingKeys payer ixs).card ≤ 255 ∧ (mentionedKeys payer ixs).card ≤ 256 ∧
      m.header = ((Roster.gather payer ixs).beyond tables).headerOf ∧
      m.keys = ((Roster.gather payer ixs).beyond tables).carriedKeys ∧
      ((Roster.gather payer ixs).space tables).indexAll ixs = .ok m.instructions ∧
      m.lookups = ((Roster.gather payer ixs).handOvers [] tables).map (·.lookup) := by
  rcases compile_cases payer ixs tables with ⟨_, hc⟩ | ⟨_, _, hc⟩ | ⟨_, _, _, _, hc⟩ |
    ⟨hreach, hremaining, hsigning, hmentioned, _⟩
  · simp only [h, reduceCtorEq] at hc
  · simp only [h, reduceCtorEq] at hc
  · simp only [h, reduceCtorEq] at hc
  · rw [compile_of_room payer ixs tables hreach hremaining hsigning, Outcome.bind_eq_ok] at h
    rcases h with ⟨instructions, hindex, hm⟩
    rw [Except.ok.injEq] at hm
    rw [← hm]
    exact ⟨hreach, hremaining, hsigning, hmentioned, rfl, rfl, hindex, rfl⟩

/-- What is loaded in the turns of the tables, behind a payer and instructions. -/
def loadings : List Loading :=
  ((Roster.gather payer ixs).activeTurns tables).map (Roster.gather payer ixs).loadingOf

/-- The keys of a message with these loadings are the key space that its
    instructions were indexed in. -/
theorem space_loadings (m : WalletMessage)
    (hkeys : m.keys = ((Roster.gather payer ixs).beyond tables).carriedKeys) :
    m.space (loadings payer ixs tables) = (Roster.gather payer ixs).space tables := by
  rw [space, Roster.space, hkeys, loadings, Roster.handOvers_eq_map, List.map_map, List.map_map]
  rfl

/-- The lookups of a compiled message stand for its loadings. -/
theorem forall₂_loads (m : WalletMessage) (h : compile payer ixs tables = .ok m) :
    List.Forall₂ TableLookup.Loads m.lookups (loadings payer ixs tables) := by
  rcases parts_of_compile payer ixs tables m h with ⟨hreach, _, _, _, _, _, _, hlookups⟩
  rw [hlookups, Roster.handOvers_eq_map, loadings, List.map_map, List.forall₂_map_left_iff,
    List.forall₂_map_right_iff, List.forall₂_same]
  intro turn hturn
  rcases List.mem_filter.mp hturn with ⟨hturn, hactive⟩
  exact Roster.loads_loadingOf _ turn
    ((Roster.reaches_iff payer ixs tables).mpr hreach turn hturn) (of_decide_eq_true hactive)

/-- Loadings are from tables that are loaded from. -/
theorem loadsFrom_of_loadings (loading : Loading) (h : loading ∈ loadings payer ixs tables) :
    LoadsFrom payer ixs tables loading.table := by
  rcases List.mem_map.mp h with ⟨turn, hturn, rfl⟩
  rcases List.mem_filter.mp hturn with ⟨hturn, hactive⟩
  rcases (LookupTable.mem_turns [] tables turn.1 turn.2).mp hturn with ⟨front, rest, htables, hseen⟩
  rw [List.nil_append] at hseen
  have hshare : ∃ writable,
      ((Roster.gather payer ixs).beyond turn.1).share turn.2 writable ≠ [] := by
    rcases not_and_or.mp (of_decide_eq_true hactive) with hsome | hsome
    · exact ⟨true, hsome⟩
    · exact ⟨false, hsome⟩
  rcases hshare with ⟨writable, hsome⟩
  rcases List.exists_mem_of_ne_nil _ hsome with ⟨key, hkey⟩
  rcases (Roster.mem_share_beyond payer ixs turn.1 turn.2 writable key).mp hkey with
    ⟨hmentioned, hsigner, _, hnot, hheld⟩
  rw [hseen] at hnot
  exact ⟨front, rest, htables, key, hmentioned, hsigner,
    fun u hu hmem => hnot ⟨u, hu, hmem⟩, hheld⟩

/-- A key is loaded if it does not sign and some table holds it: from the first table
    that does, with its writability. -/
theorem mem_loadings (key : Address) (hkey : key ∈ mentionedKeys payer ixs)
    (hsigner : asksFor payer ixs Role.signer key = false) (t : LookupTable)
    (hfirst : tables.find? (fun t => key ∈ t.addresses) = some t) :
    ∃ loading ∈ loadings payer ixs tables, loading.table = t ∧
      (key ∈ loading.keys.writable ↔ asksFor payer ixs Role.writable key = true) ∧
      (key ∈ loading.keys.readonly ↔ asksFor payer ixs Role.writable key = false) := by
  rcases List.find?_eq_some_iff_append.mp hfirst with ⟨hheld, before, after, htables, hnot⟩
  have hheld : key ∈ t.addresses := of_decide_eq_true hheld
  have hbefore : ¬ LookupTable.Hold before key := by
    intro hhold
    rcases hhold with ⟨u, hu, hmem⟩
    have hu := hnot u hu
    simp only [hmem, decide_true, Bool.not_true, Bool.false_eq_true] at hu
  have hshare : ∀ writable, key ∈ ((Roster.gather payer ixs).beyond before).share t writable ↔
      asksFor payer ixs Role.writable key = writable := by
    intro writable
    rw [Roster.mem_share_beyond]
    exact ⟨fun h => h.2.2.1, fun h => ⟨hkey, hsigner, h, hbefore, hheld⟩⟩
  have hturn : (before, t) ∈ LookupTable.turns [] tables :=
    (LookupTable.mem_turns [] tables before t).mpr ⟨before, after, htables, rfl⟩
  -- The turn is active, since the key is taken over in it.
  have hactive : ¬ (((Roster.gather payer ixs).beyond before).share t true = [] ∧
      ((Roster.gather payer ixs).beyond before).share t false = []) := by
    intro hempty
    cases hwritable : asksFor payer ixs Role.writable key with
    | false =>
        have hmem := (hshare false).mpr hwritable
        rw [hempty.2] at hmem
        exact absurd hmem List.not_mem_nil
    | true =>
        have hmem := (hshare true).mpr hwritable
        rw [hempty.1] at hmem
        exact absurd hmem List.not_mem_nil
  exact ⟨_, List.mem_map_of_mem (List.mem_filter.mpr ⟨hturn, decide_eq_true hactive⟩), rfl,
    hshare true, hshare false⟩

/-- Loaded keys do not sign. -/
theorem not_mem_signingKeys_of_loadings (loading : Loading)
    (hloading : loading ∈ loadings payer ixs tables) (key : Address)
    (hkey : key ∈ loading.keys.toList) : key ∉ signingKeys payer ixs := by
  rcases List.mem_map.mp hloading with ⟨turn, _, rfl⟩
  have hsigner : asksFor payer ixs Role.signer key = false := by
    rcases List.mem_append.mp hkey with hmem | hmem
    · exact ((Roster.mem_share_beyond payer ixs turn.1 turn.2 true key).mp hmem).2.1
    · exact ((Roster.mem_share_beyond payer ixs turn.1 turn.2 false key).mp hmem).2.1
  simp only [signingKeys, Finset.mem_filter, hsigner, Bool.false_eq_true, and_false,
    not_false_eq_true]

/-- A key is not both carried and loaded. -/
theorem not_mem_keys_of_loading (m : WalletMessage) (parts : List Loading)
    (hnodup : (m.space parts).toList.Nodup) (loading : Loading) (hloading : loading ∈ parts)
    (key : Address) (hkey : key ∈ loading.keys.toList) : key ∉ m.keys := by
  intro hcarried
  have hloaded : key ∈ (LoadedKeys.concat (parts.map (·.keys))).toList :=
    (LoadedKeys.perm_toList_concat _).mem_iff.mpr
      (List.mem_flatMap.mpr ⟨_, List.mem_map_of_mem hloading, hkey⟩)
  exact (List.nodup_append.mp hnodup).2.2 key hcarried key hloaded rfl

/-- A lookup loads the loading that it stands for. -/
theorem load_of_loads (known : List LookupTable) (l : TableLookup) (loading : Loading)
    (h : l.Loads loading)
    (hknown : LookupTable.addresses? known loading.table.key = some loading.table.addresses) :
    load known l = .ok loading.keys := by
  have hnamed : ∀ (index : UInt8) (key : Address),
      loading.table.addresses.idxOf? key = some index.toNat →
      loading.table.addresses[index.toNat]? = some key := by
    intro index key hidx
    rcases List.idxOf?_eq_some_iff.mp hidx with ⟨hlt, hget, _⟩
    rw [List.getElem?_eq_getElem hlt, hget]
  rw [← h.named] at hknown
  exact (load_eq_ok known l loading.keys).mpr ⟨loading.table.addresses, hknown,
    h.writable.imp hnamed, h.readonly.imp hnamed⟩

/-- A message loads the loadings that its lookups stand for, if the tables at hand
    hold the same addresses under the same keys. -/
theorem loadedKeys_of_loads (m : WalletMessage) (parts : List Loading)
    (h : List.Forall₂ TableLookup.Loads m.lookups parts) (known : List LookupTable)
    (hknown : ∀ loading ∈ parts,
      LookupTable.addresses? known loading.table.key = some loading.table.addresses) :
    m.loadedKeys known = .ok (m.space parts).loaded := by
  refine (Outcome.bind_eq_ok _ _ _).mpr ⟨parts.map (·.keys), ?_, rfl⟩
  rw [Outcome.mapM_eq_ok, List.forall₂_map_right_iff]
  exact ((List.forall₂_and_left _ _).mpr ⟨hknown, h.flip⟩).flip.imp
    fun l loading hl => load_of_loads known l loading hl.2 hl.1

/-- A compiled message decompiles with any tables that hold the same addresses as
    those that it loads from. -/
theorem decompile_of_loadings (known : List LookupTable) (m : WalletMessage)
    (h : compile payer ixs tables = .ok m)
    (hknown : ∀ loading ∈ loadings payer ixs tables,
      LookupTable.addresses? known loading.table.key = some loading.table.addresses) :
    m.decompile known = .ok (ixs.map (Instruction.merged payer ixs)) := by
  have hloads := forall₂_loads payer ixs tables m h
  rcases parts_of_compile payer ixs tables m h with ⟨hreach, _, _, _, _, hkeys, _, _⟩
  rcases compile_eq_ok payer ixs tables m h with ⟨xs, last, hxs, hlayout, hindex, _⟩
  have hxs' := hxs
  rw [extractAll_gather payer ixs tables hreach, Except.ok.injEq, Prod.mk.injEq] at hxs'
  have hloaded := loadedKeys_of_loads m _ hloads known hknown
  rw [space_loadings payer ixs tables m hkeys, Roster.space, hxs'.1] at hloaded
  exact decompile_of_loadedKeys payer ixs known tables m xs last hxs hlayout hindex hloaded

/-- Every compiled message is well-formed. -/
theorem compile_wellFormed (m : WalletMessage) (h : compile payer ixs tables = .ok m) :
    ∃ parts, WellFormed payer ixs tables m parts := by
  rcases parts_of_compile payer ixs tables m h with
    ⟨_, hremaining, hsigning, hmentioned, hheader, hkeys, hindex, _⟩
  have hspace := space_loadings payer ixs tables m hkeys
  have hpayer := Roster.payerFirst_beyond _ tables (Roster.payerFirst_gather payer ixs)
  rw [← Roster.length_beyond] at hremaining
  rw [← Roster.signerCount_beyond payer ixs tables] at hsigning
  have hcounts := Roster.headerOf_counts _ hpayer hremaining hsigning
  rw [← hheader, ← hkeys] at hcounts
  have hnodup : (m.space (loadings payer ixs tables)).toList.Nodup := by
    rw [hspace, (Roster.perm_space _ tables).nodup_iff]
    exact Roster.nodup_keys_gather payer ixs
  refine ⟨loadings payer ixs tables, {
    lookups := forall₂_loads payer ixs tables m h
    inOrder := Roster.map_table_loadings _ tables
    payerFirst := by rw [hkeys, hpayer.head?_carriedKeys]; rfl
    nodup := hnodup
    mem := fun key => by
      rw [hspace, (Roster.perm_space _ tables).mem_iff, Roster.mem_keys_gather]
    room := by rw [hspace, Roster.length_space]; exact hmentioned
    someWritableSigner := hcounts.1
    writableSigners := hcounts.2.1
    signers := Nat.le_trans (Nat.le_add_right _ _) hcounts.2.2
    writableNonSigners := hcounts.2.2
    places := by
      rw [hspace]
      exact KeySpace.lt_of_indexAll _ ixs m.instructions hindex
    signersCarried := not_mem_signingKeys_of_loadings payer ixs tables
    tablesUsed := ?_ }⟩
  intro key hkey hnot t hfirst
  have hsigner : asksFor payer ixs Role.signer key = false := by
    rw [← Bool.not_eq_true]
    exact fun hsigner => hnot (Finset.mem_filter.mpr ⟨hkey, hsigner⟩)
  rcases mem_loadings payer ixs tables key hkey hsigner t hfirst with
    ⟨loading, hloading, htable, hwritable, hreadonly⟩
  refine ⟨?_, loading, hloading, htable, hwritable, hreadonly⟩
  refine not_mem_keys_of_loading m _ hnodup loading hloading key (List.mem_append.mpr ?_)
  rw [hwritable, hreadonly]
  exact Bool.eq_false_or_eq_true _

/-- Tables that overlap: a key called as a program is also an account, one table
    has an entry twice, and the third has nothing left to load. -/
theorem compile_wellFormed_overlap :
    let key (n : UInt8) : Address := Octets.replicate 32 n
    let ixs : List Instruction := [
      ⟨key 9, [⟨key 2, ⟨true, false⟩⟩, ⟨key 3, ⟨false, true⟩⟩], [7]⟩,
      ⟨key 3, [⟨key 4, .plain⟩, ⟨key 9, .plain⟩], []⟩]
    let tables : List LookupTable := [⟨key 20, [key 4, key 3, key 4]⟩,
      ⟨key 21, [key 2, key 3, key 9]⟩, ⟨key 22, [key 4, key 1]⟩]
    let m : WalletMessage := {
      header := ⟨2, 1, 0⟩
      keys := [key 1, key 2]
      instructions := [⟨4, [1, 2], [7]⟩, ⟨2, [3, 4], []⟩]
      lookups := [⟨key 20, [1], [0]⟩, ⟨key 21, [], [2]⟩] }
    compile (key 1) ixs tables = .ok m ∧ ∃ parts, WellFormed (key 1) ixs tables m parts := by
  intro key ixs tables m
  have hm : compile (key 1) ixs tables = .ok m := by decide +kernel
  exact ⟨hm, compile_wellFormed (key 1) ixs tables m hm⟩

end WalletMessage

end Cosigner
