import Cosigner.Proofs.Message.Native
import Mathlib.Algebra.GroupWithZero.Nat

/-!
# Decompiling an Unchecked Message

A message that was compiled here keeps its header within its keys. A message that
arrives as bytes need not. Its counts may exceed each other or the number of carried
keys, a key may occur twice, and every index may point beyond what it indexes.
Decompiling has no check in front for any of this, so what it does with such a
message has to be read off the message as it is.

All of it depends on sizes. `WalletMessage.keyCount` counts the carried keys and the
entries that lookups load, without looking into a table, and a place of an
instruction is good exactly if it is below this number. Tables are looked at first:
a lookup that cannot be loaded is reported even if an instruction is bad too. The
first fault of either kind is a function of the message and the tables, and nothing
but these functions decides how decompiling fails.

Roles follow the counts as they stand. A count that reaches past the carried keys
ends there, because the rule for carried keys is asked for no other places; loaded
keys go by their segment. A count of writable signers that exceeds the signers does
not reach past them either, since the keys behind the signers have their own count.

## Main definitions

* `WalletMessage.sources`: Where the keys at all places come from.
* `WalletMessage.keyCount`: How many places there are.
* `WalletMessage.lookupFault?`, `WalletMessage.badPlace?`: The first faults.
* `WalletMessage.Presents`, `WalletMessage.Spells`: What a place and an instruction
  stand for.

## Theorems

* `KeySpace.signs_iff`, `KeySpace.writes_iff`: Roles by the counts of any header.
* `WalletMessage.load_eq_error`, `WalletMessage.loadedKeys_eq_error`: How loading
  fails.
* `KeySpace.resolve_eq_error`: An instruction fails with its first bad place.
* `WalletMessage.forall₂_sources`: Loaded keys are those that the sources name.
* `WalletMessage.decompile_eq_error`: How decompiling fails.
* `WalletMessage.decompile_unchecked`: How decompiling comes out, in all cases.
-/

namespace Cosigner

/-- The first thing that is wrong with a lookup: its table is not at hand, or else an
    entry is not there, those loaded writable coming first. -/
def TableLookup.fault? (tables : List LookupTable) (l : TableLookup) : Option MessageError :=
  match LookupTable.addresses? tables l.table with
  | none => some (.tableMissing l.table)
  | some addresses =>
    ((l.writable ++ l.readonly).find? fun index => addresses.length ≤ index.toNat).map
      (.badLookup l.table)

/-- The places that an instruction names, its program first. -/
def IndexedInstruction.places (ix : IndexedInstruction) : List UInt8 :=
  ix.program :: ix.accounts

namespace WalletMessage

/-- Where the keys at all places come from: the carried keys, then the entries that
    any lookup loads writable, then those that any lookup loads readonly. -/
def sources (m : WalletMessage) : List KeySource :=
  m.keys.map .carried ++
    (m.lookups.flatMap (fun l => l.writable.map (.entry l.table)) ++
      m.lookups.flatMap (fun l => l.readonly.map (.entry l.table)))

/-- How many entries are loaded writable. -/
def writableCount (m : WalletMessage) : Nat :=
  (m.lookups.map (·.writable.length)).sum

/-- How many entries are loaded readonly. -/
def readonlyCount (m : WalletMessage) : Nat :=
  (m.lookups.map (·.readonly.length)).sum

/-- How many places there are: carried keys and loaded ones. -/
def keyCount (m : WalletMessage) : Nat :=
  m.keys.length + m.writableCount + m.readonlyCount

/-- The first fault of a lookup, in the order of the lookups. -/
def lookupFault? (m : WalletMessage) (tables : List LookupTable) : Option MessageError :=
  m.lookups.findSome? (·.fault? tables)

/-- The first place without a key that an instruction names, in the order of the
    instructions. -/
def badPlace? (m : WalletMessage) : Option UInt8 :=
  (m.instructions.flatMap (·.places)).find? fun place => m.keyCount ≤ place.toNat

/-- An account as a message presents it at a place, whatever its header says. -/
structure Presents (m : WalletMessage) (tables : List LookupTable) (place : UInt8)
    (ref : AccountRef) : Prop where
  -- The key comes from where the place says.
  key : ∃ source, m.sources[place.toNat]? = some source ∧ source.key? tables = some ref.key
  -- It signs if it is carried and stands among the signers.
  signer : ref.role.signer = true ↔
    place.toNat < m.keys.length ∧ place.toNat < m.header.signers.toNat
  -- It may be written to if it is carried and stands at the start of the signers or
  -- right behind them, or if it is loaded writable.
  writable : ref.role.writable = true ↔
    (place.toNat < m.keys.length ∧
      (place.toNat < min m.header.signers.toNat m.header.writableSigners.toNat ∨
        m.header.signers.toNat ≤ place.toNat ∧
          place.toNat < m.header.signers.toNat + m.header.writableNonSigners.toNat)) ∨
    (m.keys.length ≤ place.toNat ∧ place.toNat < m.keys.length + m.writableCount)

/-- An instruction as a message spells it: with the key at the place of its program,
    the accounts at its other places and the same data. -/
structure Spells (m : WalletMessage) (tables : List LookupTable) (ix : IndexedInstruction)
    (found : Instruction) : Prop where
  program : ∃ source, m.sources[ix.program.toNat]? = some source ∧
    source.key? tables = some found.program
  accounts : List.Forall₂ (m.Presents tables) ix.accounts found.accounts
  data : found.data = ix.data

end WalletMessage

-- Two flags make a role.
theorem Role.eq_of_flags (a b : Role) (hsigner : a.signer = true ↔ b.signer = true)
    (hwritable : a.writable = true ↔ b.writable = true) : a = b := by
  cases a
  cases b
  rw [Role.mk.injEq]
  exact ⟨Bool.eq_iff_iff.mpr hsigner, Bool.eq_iff_iff.mpr hwritable⟩

namespace KeySpace

variable (s : KeySpace)

/-- The places that sign are the first ones, as many as the header says, as far as keys
    are carried. -/
theorem signs_iff (header : Header) (place : Nat) :
    (s.role header place).signer = true ↔
      place < s.carried.length ∧ place < header.signers.toNat := by
  unfold role
  by_cases hcarried : place < s.carried.length
  · rw [if_pos hcarried]
    simp only [Header.role, Header.isSigner, decide_eq_true_eq, hcarried, true_and]
  · rw [if_neg hcarried]
    simp only [Bool.false_eq_true, hcarried, false_and]

/-- The places that are writable come in three runs: of carried keys that sign, of carried
    keys that do not, and of loaded keys. -/
theorem writes_iff (header : Header) (place : Nat) :
    (s.role header place).writable = true ↔
      (place < s.carried.length ∧
        (place < min header.signers.toNat header.writableSigners.toNat ∨
          header.signers.toNat ≤ place ∧
            place < header.signers.toNat + header.writableNonSigners.toNat)) ∨
      (s.carried.length ≤ place ∧ place < s.carried.length + s.loaded.writable.length) := by
  unfold role
  by_cases hcarried : place < s.carried.length
  · rw [if_pos hcarried]
    simp only [Header.role, Header.isWritable]
    -- Signers and the keys behind them are counted apart.
    by_cases hsigner : place < header.signers.toNat
    · rw [if_pos hsigner, decide_eq_true_eq]
      omega
    · rw [if_neg hsigner, decide_eq_true_eq]
      omega
  · rw [if_neg hcarried, decide_eq_true_eq]
    omega

-- Looking up a key fails with the place it was looked up at.
theorem keyAt_eq_error (place : UInt8) (e : MessageError) :
    s.keyAt place = .error e ↔ decide (s.length ≤ place.toNat) = true ∧ .badIndex place = e := by
  unfold keyAt get?
  rw [decide_eq_true_iff, ← s.length_toList, ← List.getElem?_eq_none_iff]
  cases s.toList[place.toNat]? with
  | none => simp only [Except.error.injEq, true_and]
  | some key => simp only [reduceCtorEq, false_and]

/-- An instruction fails with its first place that is out of range. -/
theorem resolve_eq_error (header : Header) (ix : IndexedInstruction) (e : MessageError) :
    s.resolve header ix = .error e ↔
      (ix.places.find? fun place => s.length ≤ place.toNat).map .badIndex = some e := by
  have href : ∀ place e', s.refAt header place = .error e' ↔
      decide (s.length ≤ place.toNat) = true ∧ .badIndex place = e' := by
    intro place e'
    rw [refAt, Outcome.bind_pure_eq_error, keyAt_eq_error]
  exact Outcome.cons_eq_error_of_bad s.keyAt (s.refAt header)
    (fun program accounts => Instruction.mk program accounts ix.data) _ _ s.keyAt_eq_error href
    ix.program ix.accounts e

-- Instructions fail with the first place that any of them names and that has no key.
theorem resolveAll_eq_error (header : Header) (ixs : List IndexedInstruction)
    (e : MessageError) :
    s.resolveAll header ixs = .error e ↔
      ((ixs.flatMap (·.places)).find? fun place => s.length ≤ place.toNat).map .badIndex
        = some e := by
  unfold resolveAll
  rw [Outcome.mapM_eq_error_of_fault _ _ (s.resolve_eq_error header), List.find?_flatMap,
    List.map_findSome?]
  rfl

end KeySpace

namespace WalletMessage

variable (m : WalletMessage) (tables : List LookupTable)

-- A lookup fails as it is said to.
theorem load_eq_error (l : TableLookup) (e : MessageError) :
    load tables l = .error e ↔ l.fault? tables = some e := by
  unfold load TableLookup.fault?
  cases LookupTable.addresses? tables l.table with
  | none => simp only [Except.error.injEq, Option.some.injEq]
  | some addresses =>
      have hentry : ∀ index e', loadEntry l.table addresses index = .error e' ↔
          decide (addresses.length ≤ index.toNat) = true ∧ .badLookup l.table index = e' := by
        intro index e'
        unfold loadEntry
        rw [decide_eq_true_iff, ← List.getElem?_eq_none_iff]
        cases addresses[index.toNat]? with
        | none => simp only [Except.error.injEq, true_and]
        | some key => simp only [reduceCtorEq, false_and]
      have hentries := Outcome.mapM_eq_error_of_bad (loadEntry l.table addresses) _ _ hentry
      dsimp only
      rw [List.find?_append, Option.map_or,
        Outcome.bind_eq_error_of_fault _ _ _ _ (hentries l.writable) fun _ _ e' => ?_]
      rw [← hentries l.readonly e', Outcome.bind_pure_eq_error]

/-- Loading fails with the first fault of a lookup. -/
theorem loadedKeys_eq_error (e : MessageError) :
    m.loadedKeys tables = .error e ↔ m.lookupFault? tables = some e := by
  rw [loadedKeys, lookupFault?, Outcome.bind_pure_eq_error,
    Outcome.mapM_eq_error_of_fault _ _ (load_eq_error tables)]

/-- The keys that lookups load are those that their entries name, segment by segment. -/
theorem forall₂_loadedSources (part : TableLookup → List UInt8)
    (loadedPart : LoadedKeys → List Address) (parts : List LoadedKeys)
    (h : List.Forall₂ (fun l found => ∃ addresses,
      LookupTable.addresses? tables l.table = some addresses ∧
        List.Forall₂ (fun index key => addresses[index.toNat]? = some key) (part l)
          (loadedPart found)) m.lookups parts) :
    List.Forall₂ (fun source key => KeySource.key? tables source = some key)
      (m.lookups.flatMap fun l => (part l).map (.entry l.table)) (parts.flatMap loadedPart) := by
  refine List.rel_flatMap h fun l found hfound => ?_
  rcases hfound with ⟨addresses, haddresses, hkeys⟩
  rw [List.forall₂_map_left_iff]
  refine hkeys.imp fun index key hkey => ?_
  simp only [KeySource.key?, haddresses, Option.bind_eq_bind, Option.bind_some, hkey]

-- How many entries the lookups of one segment name.
theorem length_loadedSources (part : TableLookup → List UInt8) :
    (m.lookups.flatMap fun l => (part l).map (KeySource.entry l.table)).length
      = (m.lookups.map fun l => (part l).length).sum := by
  rw [List.length_flatMap]
  simp only [List.length_map]

section Loaded

variable (loaded : LoadedKeys) (hloaded : m.loadedKeys tables = .ok loaded)

include hloaded

/-- Once the keys of a message are loaded, its places hold the keys that their sources
    name. -/
theorem forall₂_sources : List.Forall₂ (fun source key => KeySource.key? tables source = some key)
    m.sources (KeySpace.mk m.keys loaded).toList ∧ loaded.writable.length = m.writableCount := by
  rcases (m.loadedKeys_eq_ok tables loaded).mp hloaded with ⟨parts, hparts, rfl⟩
  have hcarried : List.Forall₂ (fun source key => KeySource.key? tables source = some key)
      (m.keys.map .carried) m.keys := by
    rw [List.forall₂_map_left_iff, List.forall₂_same]
    exact fun _ _ => rfl
  have hwritable := m.forall₂_loadedSources tables (·.writable) (·.writable) parts <|
    hparts.imp fun l found hfound => by
      rcases (load_eq_ok tables l found).mp hfound with ⟨addresses, haddresses, h, _⟩
      exact ⟨addresses, haddresses, h⟩
  have hreadonly := m.forall₂_loadedSources tables (·.readonly) (·.readonly) parts <|
    hparts.imp fun l found hfound => by
      rcases (load_eq_ok tables l found).mp hfound with ⟨addresses, haddresses, _, h⟩
      exact ⟨addresses, haddresses, h⟩
  refine ⟨List.rel_append hcarried (List.rel_append hwritable hreadonly), ?_⟩
  exact hwritable.length_eq.symm.trans (m.length_loadedSources (·.writable))

/-- A key stands at a place exactly if the place has a source and the source has the key.
    -/
theorem getElem?_toList (place : Nat) (key : Address) :
    (KeySpace.mk m.keys loaded).toList[place]? = some key ↔
      ∃ source, m.sources[place]? = some source ∧ source.key? tables = some key := by
  have hall := (m.forall₂_sources tables loaded hloaded).1
  constructor
  · intro h
    exact Outcome.getElem?_of_forall₂ _ _ _ hall.flip place key h
  · intro h
    rcases h with ⟨source, hsource, hkey⟩
    rcases Outcome.getElem?_of_forall₂ _ _ _ hall place source hsource with ⟨found, hfound, heq⟩
    rw [hfound, ← heq, hkey]

theorem length_eq_keyCount : (KeySpace.mk m.keys loaded).length = m.keyCount := by
  rw [← KeySpace.length_toList, ← (m.forall₂_sources tables loaded hloaded).1.length_eq]
  simp only [sources, List.length_append, List.length_map, length_loadedSources, keyCount,
    writableCount, readonlyCount, Nat.add_assoc]

-- What resolving yields is what the places present, instruction by instruction.
theorem refAt_eq_ok_iff_presents (place : UInt8) (ref : AccountRef) :
    (KeySpace.mk m.keys loaded).refAt m.header place = .ok ref ↔ m.Presents tables place ref := by
  have hwritable := (m.forall₂_sources tables loaded hloaded).2
  have hsigns := KeySpace.signs_iff ⟨m.keys, loaded⟩ m.header place.toNat
  have hwrites := KeySpace.writes_iff ⟨m.keys, loaded⟩ m.header place.toNat
  rw [hwritable] at hwrites
  rw [KeySpace.refAt_eq_ok, m.getElem?_toList tables loaded hloaded]
  constructor
  · intro h
    rcases h with ⟨hkey, hrole⟩
    rw [← hrole] at hsigns hwrites
    exact ⟨hkey, hsigns, hwrites⟩
  · intro h
    exact ⟨h.key, Role.eq_of_flags _ _ (h.signer.trans hsigns.symm) (h.writable.trans hwrites.symm)⟩

theorem resolve_eq_ok_iff_spells (ix : IndexedInstruction) (found : Instruction) :
    (KeySpace.mk m.keys loaded).resolve m.header ix = .ok found ↔ m.Spells tables ix found := by
  rw [KeySpace.resolve_eq_ok, m.getElem?_toList tables loaded hloaded]
  simp only [m.refAt_eq_ok_iff_presents tables loaded hloaded]
  constructor
  · intro h
    exact ⟨h.1, h.2.1, h.2.2⟩
  · intro h
    exact ⟨h.program, h.accounts, h.data⟩

end Loaded

/-- Decompiling fails with the first fault of a lookup, and if there is none with the
    first bad place. -/
theorem decompile_eq_error (e : MessageError) :
    m.decompile tables = .error e ↔
      (m.lookupFault? tables).or (m.badPlace?.map .badIndex) = some e := by
  unfold decompile
  refine Outcome.bind_eq_error_of_fault _ _ _ _ (m.loadedKeys_eq_error tables) ?_ e
  intro loaded hloaded e'
  rw [KeySpace.resolveAll_eq_error, m.length_eq_keyCount tables loaded hloaded]
  rfl

/-- A message decompiles if every lookup can be loaded and every place that is named has
    a key. -/
theorem decompile_isOk : (∃ ixs, m.decompile tables = .ok ixs) ↔
    (∀ l ∈ m.lookups, l.FoundIn tables) ∧
      ∀ ix ∈ m.instructions, ∀ place ∈ ix.places, place.toNat < m.keyCount := by
  have hlookups : m.lookupFault? tables = none ↔ ∀ l ∈ m.lookups, l.FoundIn tables := by
    rw [← m.loadedKeys_isOk tables, Outcome.isOk_iff, Option.eq_none_iff_forall_ne_some]
    simp only [loadedKeys_eq_error, ne_eq]
  have hplaces : m.badPlace? = none ↔
      ∀ ix ∈ m.instructions, ∀ place ∈ ix.places, place.toNat < m.keyCount := by
    simp only [badPlace?, List.find?_eq_none, List.forall_mem_flatMap, decide_eq_true_eq,
      Nat.not_le]
  rw [← hlookups, ← hplaces, Outcome.isOk_iff]
  simp only [decompile_eq_error, ne_eq, ← Option.eq_none_iff_forall_ne_some, Option.or_eq_none_iff,
    Option.map_eq_none_iff]

/-- A message decompiles to the instructions that it spells, if every lookup can be
    loaded. -/
theorem decompile_eq_ok_iff_spells (ixs : List Instruction) : m.decompile tables = .ok ixs ↔
    (∀ l ∈ m.lookups, l.FoundIn tables) ∧
      List.Forall₂ (m.Spells tables) m.instructions ixs := by
  rw [decompile_eq_ok, ← m.loadedKeys_isOk]
  constructor
  · intro h
    rcases h with ⟨loaded, hloaded, hall⟩
    exact ⟨⟨loaded, hloaded⟩, hall.imp fun ix found =>
      (m.resolve_eq_ok_iff_spells tables loaded hloaded ix found).mp⟩
  · intro h
    rcases h with ⟨⟨loaded, hloaded⟩, hall⟩
    exact ⟨loaded, hloaded, hall.imp fun ix found =>
      (m.resolve_eq_ok_iff_spells tables loaded hloaded ix found).mpr⟩

/-- How decompiling comes out, for any message and any tables. It succeeds if every
    lookup has its table and all entries of it, and if every place that is named is below
    the number of carried and loaded keys. A lookup that fails is reported, the first in
    the order of lookups, before any place is looked at; then the first bad place is. And
    the instructions that come back have the keys and the roles that the message gives to
    their places, whatever its header says. -/
theorem decompile_unchecked :
    ((∃ ixs, m.decompile tables = .ok ixs) ↔
      (∀ l ∈ m.lookups, l.FoundIn tables) ∧
        ∀ ix ∈ m.instructions, ∀ place ∈ ix.places, place.toNat < m.keyCount) ∧
    (∀ e, m.decompile tables = .error e ↔ m.lookupFault? tables = some e ∨
      m.lookupFault? tables = none ∧ ∃ place, m.badPlace? = some place ∧ e = .badIndex place) ∧
    ∀ ixs, m.decompile tables = .ok ixs ↔ (∀ l ∈ m.lookups, l.FoundIn tables) ∧
      List.Forall₂ (m.Spells tables) m.instructions ixs := by
  refine ⟨m.decompile_isOk tables, fun e => ?_, m.decompile_eq_ok_iff_spells tables⟩
  rw [decompile_eq_error, Option.or_eq_some_iff, Option.map_eq_some_iff]
  simp only [eq_comm (a := e)]

-- More signers than carried keys, and more writable ones than signers: the counts end with
-- the carried keys. An entry that is not there is reported and not the bad place.
example :
    let key (n : UInt8) : Address := Octets.replicate 32 n
    let tables : List LookupTable := [⟨key 20, [key 3, key 4]⟩]
    let m (ix : IndexedInstruction) (entry : UInt8) : WalletMessage :=
      ⟨⟨3, 9, 1⟩, [key 1, key 1], [ix], [⟨key 20, [1], [entry]⟩]⟩
    (m ⟨3, [0, 1, 2, 3], [7]⟩ 0).decompile tables = .ok [⟨key 3, [⟨key 1, ⟨true, true⟩⟩,
        ⟨key 1, ⟨true, true⟩⟩, ⟨key 4, ⟨false, true⟩⟩, ⟨key 3, ⟨false, false⟩⟩], [7]⟩] ∧
      (m ⟨0, [4], []⟩ 0).decompile tables = .error (.badIndex 4) ∧
      (m ⟨0, [4], []⟩ 2).decompile tables = .error (.badLookup (key 20) 2) := by
  decide +kernel

end WalletMessage

end Cosigner
