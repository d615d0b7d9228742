import Cosigner.Proofs.Message.Decompile
import Cosigner.Proofs.Message.RoundTrip

/-!
# Roles in a Transaction

The message of a transaction and a wallet message divide the same keys into the
same four groups, but they count from different ends. One counts the readonly
keys at the end of the signers and at the end of all carried keys. The other
counts the writable keys at the start of either group. Wrapping turns one count
into the other by subtraction, and a count that is off by one would show in a
single flag of a single key on the boundary of two groups.

So the roles are said here once in the words of the transaction, by its own
counts and without the header that wrapping makes. `TransactionMessage.places`
lists where the key at every place comes from and what may be done with it. The
carried keys come first. Then come the entries loaded writable through any of
the lookups, then those loaded readonly, and neither sign. Wrapping is right if
every instruction comes back as this list says, and if it refuses no message
whose counts make sense.

## Main definitions

* `KeySource`, `KeyPlace`: Where the key at a place comes from, and its role.
* `TransactionMessage.role`: The role of a carried key by the transaction's counts.
* `TransactionMessage.places`: All places of a transaction.
* `TransactionMessage.Spells`: What an instruction of a transaction means.
* `TransactionMessage.WrapsTo`: A wallet message that means the same.

## Theorems

* `TransactionMessage.header_eq_ok`: When the counts can be turned, and into what.
* `TransactionMessage.header_role`: Carried keys keep their roles.
* `WalletMessage.loadedKeys_isOk`: When the keys of a message can be loaded.
* `TransactionMessage.refAt_eq_ok`: A place comes back as the transaction says.
* `TransactionMessage.wrap_keepsRoles`: Wrapping keeps what a transaction means.
-/

namespace Cosigner

/-- Where the key at a place comes from. -/
inductive KeySource where
  /-- The message carries it. -/
  | carried (key : Address)
  /-- It stands at an entry of a table. -/
  | entry (table : Address) (index : UInt8)
  deriving DecidableEq

/-- The key itself, given the contents of tables. -/
def KeySource.key? (tables : List LookupTable) : KeySource → Option Address
  | .carried key => some key
  | .entry table index => LookupTable.addresses? tables table >>= fun found => found[index.toNat]?

/-- A place that an instruction can name. -/
structure KeyPlace where
  /-- Where the key comes from. -/
  source : KeySource
  /-- What may be done with it. -/
  role : Role
  deriving DecidableEq

/-- A place comes back as an account, given the contents of tables. -/
def KeyPlace.Yields (tables : List LookupTable) (p : KeyPlace) (ref : AccountRef) : Prop :=
  p.source.key? tables = some ref.key ∧ p.role = ref.role

/-- The places of entries that a lookup loads with a role. -/
def TableLookup.placesOf (l : TableLookup) (role : Role) (indexes : List UInt8) :
    List KeyPlace :=
  indexes.map fun index => ⟨.entry l.table index, role⟩

/-- A lookup of a table that is at hand and that has all entries asked for. -/
def TableLookup.FoundIn (tables : List LookupTable) (l : TableLookup) : Prop :=
  ∃ addresses, LookupTable.addresses? tables l.table = some addresses ∧
    ∀ index ∈ l.writable ++ l.readonly, index.toNat < addresses.length

namespace TransactionMessage

/-- The role of the carried key at a place. The first keys sign; the readonly ones
    stand at the end of the signers and at the end of all keys. -/
def role (m : TransactionMessage) (place : Nat) : Role where
  signer := decide (place < m.signers.toNat)
  writable := decide (place < m.signers.toNat - m.readonlySigners.toNat ∨
    m.signers.toNat ≤ place ∧ place < m.keys.length - m.readonlyNonSigners.toNat)

/-- All places: the carried keys, the entries that any lookup loads writable, the
    entries that any lookup loads readonly. -/
def places (m : TransactionMessage) : List KeyPlace :=
  m.keys.mapIdx (fun place key => ⟨.carried key, m.role place⟩) ++
    m.lookups.flatMap (fun l => l.placesOf ⟨false, true⟩ l.writable) ++
    m.lookups.flatMap (fun l => l.placesOf ⟨false, false⟩ l.readonly)

/-- The account that a place stands for, with the role of the place. -/
def StandsFor (m : TransactionMessage) (tables : List LookupTable) (place : UInt8)
    (ref : AccountRef) : Prop :=
  ∃ p, m.places[place.toNat]? = some p ∧ p.Yields tables ref

/-- An instruction with every place replaced by the account that it stands for. -/
structure Spells (m : TransactionMessage) (tables : List LookupTable) (ix : IndexedInstruction)
    (found : Instruction) : Prop where
  -- The program is the key at its place, whatever the role of the place.
  program : ∃ role, m.StandsFor tables ix.program ⟨found.program, role⟩
  -- The accounts come in the order of the instruction.
  accounts : List.Forall₂ (m.StandsFor tables) ix.accounts found.accounts
  -- The data is the same.
  data : found.data = ix.data

/-- A wallet message that means what the message of a transaction means. -/
structure WrapsTo (m : TransactionMessage) (w : WalletMessage) : Prop where
  -- What is carried, called and looked up is the same.
  keys : w.keys = m.keys
  instructions : w.instructions = m.instructions
  lookups : w.lookups = m.lookups
  -- The header says of every carried key what the counts of the transaction say.
  signs : ∀ place < m.keys.length,
    (w.header.isSigner place = true ↔ place < m.signers.toNat)
  writes : ∀ place < m.keys.length, (w.header.isWritable place = true ↔
    place < m.signers.toNat - m.readonlySigners.toNat ∨
      m.signers.toNat ≤ place ∧ place < m.keys.length - m.readonlyNonSigners.toNat)
  -- Whatever the tables hold: if every lookup is found in them, the instructions
  -- come back with the keys and the roles of their places, and else none do.
  decompiles : ∀ tables ixs, w.decompile tables = .ok ixs ↔
    (∀ l ∈ m.lookups, l.FoundIn tables) ∧ List.Forall₂ (m.Spells tables) m.instructions ixs

/-- The counts can be turned if no group has more readonly keys than keys, and if
    the writable keys that do not sign fit into a byte. -/
theorem header_eq_ok (m : TransactionMessage) (header : Header) :
    m.header = .ok header ↔
      (m.readonlySigners.toNat ≤ m.signers.toNat ∧
        m.signers.toNat + m.readonlyNonSigners.toNat ≤ m.keys.length ∧
        m.keys.length - m.signers.toNat - m.readonlyNonSigners.toNat ≤ 255) ∧
      header = ⟨m.signers, m.signers - m.readonlySigners,
        UInt8.ofNat (m.keys.length - m.signers.toNat - m.readonlyNonSigners.toNat)⟩ := by
  unfold TransactionMessage.header
  rw [Outcome.ite_error_eq_ok, Outcome.ite_else_error_eq_ok, Nat.sub_sub, UInt8.lt_iff_toNat_lt,
    Except.ok.injEq, eq_comm (a := header)]
  constructor
  · intro h
    rcases h with ⟨hsigners, ⟨hkeys, hfits⟩, heq⟩
    exact ⟨⟨by omega, hkeys, by omega⟩, heq⟩
  · intro h
    rcases h with ⟨⟨hsigners, hkeys, hfits⟩, heq⟩
    exact ⟨by omega, ⟨hkeys, by omega⟩, heq⟩

/-- A carried key has the role that the counts of the transaction give to it. -/
theorem header_role (m : TransactionMessage) (header : Header) (h : m.header = .ok header)
    (place : Nat) : header.role place = m.role place := by
  rcases (m.header_eq_ok header).mp h with ⟨⟨hsigners, hkeys, hfits⟩, rfl⟩
  have hwritable : (m.signers - m.readonlySigners).toNat
      = m.signers.toNat - m.readonlySigners.toNat :=
    UInt8.toNat_sub_of_le _ _ (UInt8.le_iff_toNat_le.mpr hsigners)
  have hcount : (UInt8.ofNat (m.keys.length - m.signers.toNat -
      m.readonlyNonSigners.toNat)).toNat
      = m.keys.length - m.signers.toNat - m.readonlyNonSigners.toNat :=
    UInt8.toNat_ofNat_of_lt' (Nat.lt_succ_of_le hfits)
  simp only [Header.role, Header.isSigner, Header.isWritable, role, hwritable, hcount,
    Role.mk.injEq, true_and]
  -- Either group has its writable keys in front.
  by_cases hsigner : place < m.signers.toNat
  · rw [if_pos hsigner]
    exact decide_eq_decide.mpr (by omega)
  · rw [if_neg hsigner]
    exact decide_eq_decide.mpr (by omega)

end TransactionMessage

namespace KeySpace

/-- The accounts that the places of a key space stand for. -/
def refs (s : KeySpace) (header : Header) : List AccountRef :=
  s.toList.mapIdx fun place key => ⟨key, s.role header place⟩

theorem getElem?_refs (s : KeySpace) (header : Header) (place : Nat) (ref : AccountRef) :
    (s.refs header)[place]? = some ref ↔
      s.toList[place]? = some ref.key ∧ ref.role = s.role header place := by
  rw [refs, List.getElem?_mapIdx, Option.map_eq_some_iff]
  constructor
  · intro h
    rcases h with ⟨key, hkey, rfl⟩
    exact ⟨hkey, rfl⟩
  · intro h
    rcases h with ⟨hkey, hrole⟩
    exact ⟨ref.key, hkey, by rw [← hrole]⟩

/-- The three segments of the accounts, each with its own rule for roles. -/
theorem refs_eq (s : KeySpace) (header : Header) :
    s.refs header = s.carried.mapIdx (fun place key => ⟨key, header.role place⟩) ++
      (s.loaded.writable.map (fun key => ⟨key, ⟨false, true⟩⟩) ++
        s.loaded.readonly.map (fun key => ⟨key, ⟨false, false⟩⟩)) := by
  have hcarried : s.carried.mapIdx (fun place key => AccountRef.mk key (s.role header place))
      = s.carried.mapIdx fun place key => ⟨key, header.role place⟩ :=
    List.mapIdx_eq_mapIdx_iff.mpr fun place h => by rw [role, if_pos h]
  -- In a segment of loaded keys the role is the same at every place.
  have hloaded : ∀ (keys : List Address) (flat : Nat → Nat) (loaded : Role),
      (∀ place < keys.length, s.role header (flat place) = loaded) →
      keys.mapIdx (fun place key => AccountRef.mk key (s.role header (flat place)))
        = keys.map fun key => ⟨key, loaded⟩ := by
    intro keys flat loaded hrole
    refine List.ext_getElem (by simp only [List.length_mapIdx, List.length_map]) ?_
    intro place hplace _
    rw [List.length_mapIdx] at hplace
    rw [List.getElem_mapIdx, List.getElem_map, hrole place hplace]
  have hwritable := hloaded s.loaded.writable (· + s.carried.length) ⟨false, true⟩
    fun place hplace => by
      rw [role, if_neg (by omega), Nat.add_sub_cancel, decide_eq_true hplace]
  have hreadonly := hloaded s.loaded.readonly
    (· + s.loaded.writable.length + s.carried.length) ⟨false, false⟩ fun place _ => by
      rw [role, if_neg (by omega), Nat.add_sub_cancel, decide_eq_false (by omega)]
  rw [refs, toList, LoadedKeys.toList, List.mapIdx_append, List.mapIdx_append, hcarried, hwritable,
    hreadonly]

end KeySpace

namespace WalletMessage

theorem loadedKeys_eq_ok (m : WalletMessage) (tables : List LookupTable) (loaded : LoadedKeys) :
    m.loadedKeys tables = .ok loaded ↔
      ∃ parts, List.Forall₂ (fun l part => load tables l = .ok part) m.lookups parts ∧
        loaded = LoadedKeys.concat parts := by
  unfold loadedKeys
  simp only [Outcome.bind_eq_ok, Outcome.mapM_eq_ok, Outcome.pure_eq_ok, eq_comm (a := loaded)]

/-- A lookup can be loaded exactly if it is found. -/
theorem load_isOk (tables : List LookupTable) (l : TableLookup) :
    (∃ part, load tables l = .ok part) ↔ l.FoundIn tables := by
  have hentries : ∀ (addresses : List Address) (indexes : List UInt8),
      (∃ keys, List.Forall₂ (fun index key => addresses[index.toNat]? = some key) indexes keys) ↔
        ∀ index ∈ indexes, index.toNat < addresses.length := by
    intro addresses indexes
    simp only [Outcome.exists_forall₂, ← Option.isSome_iff_exists, isSome_getElem?]
  simp only [load_eq_ok, TableLookup.FoundIn, List.forall_mem_append, ← hentries]
  constructor
  · intro h
    rcases h with ⟨part, addresses, haddresses, hwritable, hreadonly⟩
    exact ⟨addresses, haddresses, ⟨part.writable, hwritable⟩, part.readonly, hreadonly⟩
  · intro h
    rcases h with ⟨addresses, haddresses, ⟨writable, hwritable⟩, readonly, hreadonly⟩
    exact ⟨⟨writable, readonly⟩, addresses, haddresses, hwritable, hreadonly⟩

/-- The keys of a message can be loaded exactly if all its lookups are found. -/
theorem loadedKeys_isOk (m : WalletMessage) (tables : List LookupTable) :
    (∃ loaded, m.loadedKeys tables = .ok loaded) ↔ ∀ l ∈ m.lookups, l.FoundIn tables := by
  simp only [loadedKeys_eq_ok, ← load_isOk, ← Outcome.exists_forall₂]
  constructor
  · intro h
    rcases h with ⟨_, parts, hparts, _⟩
    exact ⟨parts, hparts⟩
  · intro h
    rcases h with ⟨parts, hparts⟩
    exact ⟨_, parts, hparts, rfl⟩

end WalletMessage

theorem TableLookup.forall₂_placesOf (tables : List LookupTable) (l : TableLookup)
    (addresses : List Address) (haddresses : LookupTable.addresses? tables l.table = some addresses)
    (role : Role) (indexes : List UInt8) (keys : List Address)
    (h : List.Forall₂ (fun index key => addresses[index.toNat]? = some key) indexes keys) :
    List.Forall₂ (KeyPlace.Yields tables) (l.placesOf role indexes)
      (keys.map fun key => ⟨key, role⟩) := by
  rw [placesOf, List.forall₂_map_left_iff, List.forall₂_map_right_iff]
  refine h.imp fun index key hkey => ⟨?_, rfl⟩
  simp only [KeySource.key?, haddresses, Option.bind_eq_bind, Option.bind_some, hkey]

namespace TransactionMessage

variable (m : TransactionMessage) (tables : List LookupTable)

/-- The places of a transaction come back, one by one, as the accounts of the
    wallet message that it wraps to. -/
theorem forall₂_places (header : Header) (hheader : m.header = .ok header)
    (parts : List LoadedKeys)
    (hparts : List.Forall₂ (fun l part => WalletMessage.load tables l = .ok part) m.lookups
      parts) :
    List.Forall₂ (KeyPlace.Yields tables) m.places
      ((KeySpace.mk m.keys (LoadedKeys.concat parts)).refs header) := by
  have hcarried : List.Forall₂ (KeyPlace.Yields tables)
      (m.keys.mapIdx fun place key => ⟨.carried key, m.role place⟩)
      (m.keys.mapIdx fun place key => ⟨key, header.role place⟩) := by
    refine List.forall₂_iff_get.mpr ⟨by simp only [List.length_mapIdx], fun place _ _ => ?_⟩
    simp only [List.get_eq_getElem, List.getElem_mapIdx]
    exact ⟨rfl, (m.header_role header hheader place).symm⟩
  have hwritable : List.Forall₂ (KeyPlace.Yields tables)
      (m.lookups.flatMap fun l => l.placesOf ⟨false, true⟩ l.writable)
      (parts.flatMap fun part => part.writable.map fun key => ⟨key, ⟨false, true⟩⟩) := by
    refine List.rel_flatMap hparts fun l part hpart => ?_
    rcases (WalletMessage.load_eq_ok tables l part).mp hpart with ⟨addresses, haddresses, h, _⟩
    exact l.forall₂_placesOf tables addresses haddresses _ _ _ h
  have hreadonly : List.Forall₂ (KeyPlace.Yields tables)
      (m.lookups.flatMap fun l => l.placesOf ⟨false, false⟩ l.readonly)
      (parts.flatMap fun part => part.readonly.map fun key => ⟨key, ⟨false, false⟩⟩) := by
    refine List.rel_flatMap hparts fun l part hpart => ?_
    rcases (WalletMessage.load_eq_ok tables l part).mp hpart with ⟨addresses, haddresses, _, h⟩
    exact l.forall₂_placesOf tables addresses haddresses _ _ _ h
  rw [KeySpace.refs_eq, places, List.append_assoc]
  simp only [LoadedKeys.concat, List.map_flatMap]
  exact List.rel_append hcarried (List.rel_append hwritable hreadonly)

section Loaded

variable (w : WalletMessage) (hwrap : m.wrap = .ok w) (loaded : LoadedKeys)
  (hloaded : w.loadedKeys tables = .ok loaded)

include hwrap hloaded

/-- A place comes back as the account that it stands for. -/
theorem refAt_eq_ok (place : UInt8) (ref : AccountRef) :
    (KeySpace.mk w.keys loaded).refAt w.header place = .ok ref ↔ m.StandsFor tables place ref := by
  rcases (m.wrap_eq_ok w).mp hwrap with ⟨hheader, hkeys, _, hlookups⟩
  rcases (w.loadedKeys_eq_ok tables loaded).mp hloaded with ⟨parts, hparts, rfl⟩
  rw [hlookups] at hparts
  have hall := m.forall₂_places tables w.header hheader parts hparts
  rw [KeySpace.refAt_eq_ok, ← KeySpace.getElem?_refs, hkeys]
  constructor
  · intro h
    rcases Outcome.getElem?_of_forall₂ _ _ _ hall.flip place.toNat ref h with ⟨p, hp, hyields⟩
    exact ⟨p, hp, hyields⟩
  · intro h
    rcases h with ⟨p, hp, hkey, hrole⟩
    rcases Outcome.getElem?_of_forall₂ _ _ _ hall place.toNat p hp with ⟨found, hfound, hyields⟩
    -- A place has one key and one role.
    have hsame : found = ref := by
      cases found
      cases ref
      rw [AccountRef.mk.injEq]
      exact ⟨Option.some.inj (hyields.1.symm.trans hkey), hyields.2.symm.trans hrole⟩
    rw [← hsame]
    exact hfound

/-- An instruction comes back as the transaction spells it. -/
theorem resolve_eq_ok (ix : IndexedInstruction) (found : Instruction) :
    (KeySpace.mk w.keys loaded).resolve w.header ix = .ok found ↔ m.Spells tables ix found := by
  have hplace := m.refAt_eq_ok tables w hwrap loaded hloaded
  have hprogram : (KeySpace.mk w.keys loaded).toList[ix.program.toNat]? = some found.program ↔
      ∃ role, m.StandsFor tables ix.program ⟨found.program, role⟩ := by
    simp only [← hplace, KeySpace.refAt_eq_ok, exists_and_left, exists_eq, and_true]
  rw [KeySpace.resolve_eq_ok, hprogram]
  simp only [hplace]
  constructor
  · intro h
    exact ⟨h.1, h.2.1, h.2.2⟩
  · intro h
    exact ⟨h.program, h.accounts, h.data⟩

end Loaded

/-- Wrapping keeps what a transaction means. It refuses a message exactly if its
    counts ask for more keys than there are, or for more writable keys without a
    signature than a wallet message can count. -/
theorem wrap_keepsRoles :
    ((∃ w, m.wrap = .ok w) ↔ m.readonlySigners.toNat ≤ m.signers.toNat ∧
      m.signers.toNat + m.readonlyNonSigners.toNat ≤ m.keys.length ∧
      m.keys.length - m.signers.toNat - m.readonlyNonSigners.toNat ≤ 255) ∧
    ∀ w, m.wrap = .ok w → m.WrapsTo w := by
  refine ⟨?_, fun w hwrap => ?_⟩
  · constructor
    · intro h
      rcases h with ⟨w, hwrap⟩
      exact ((m.header_eq_ok w.header).mp ((m.wrap_eq_ok w).mp hwrap).1).1
    · intro h
      exact ⟨⟨_, m.keys, m.instructions, m.lookups⟩,
        (m.wrap_eq_ok _).mpr ⟨(m.header_eq_ok _).mpr ⟨h, rfl⟩, rfl, rfl, rfl⟩⟩
  · rcases (m.wrap_eq_ok w).mp hwrap with ⟨hheader, hkeys, hinstructions, hlookups⟩
    have hrole := m.header_role w.header hheader
    refine ⟨hkeys, hinstructions, hlookups, fun place _ => ?_, fun place _ => ?_,
      fun tables ixs => ?_⟩
    · rw [show w.header.isSigner place = _ from congrArg Role.signer (hrole place)]
      exact decide_eq_true_iff
    · rw [show w.header.isWritable place = _ from congrArg Role.writable (hrole place)]
      exact decide_eq_true_iff
    · rw [w.decompile_eq_ok, ← hlookups, ← hinstructions, ← w.loadedKeys_isOk]
      constructor
      · intro h
        rcases h with ⟨loaded, hloaded, hall⟩
        exact ⟨⟨loaded, hloaded⟩, hall.imp fun ix found =>
          (m.resolve_eq_ok tables w hwrap loaded hloaded ix found).mp⟩
      · intro h
        rcases h with ⟨⟨loaded, hloaded⟩, hall⟩
        exact ⟨loaded, hloaded, hall.imp fun ix found =>
          (m.resolve_eq_ok tables w hwrap loaded hloaded ix found).mpr⟩

/-- A transaction with keys in all four groups, and with two lookups that both load
    writable keys. The instruction names every place in turn. -/
theorem wrap_keepsRoles_allGroups :
    let key (n : UInt8) : Address := Octets.replicate 32 n
    let m : TransactionMessage := {
      signers := 3
      readonlySigners := 1
      readonlyNonSigners := 1
      keys := [key 1, key 2, key 3, key 4, key 5, key 6]
      instructions := [⟨8, [0, 1, 2, 3, 4, 5, 6, 7, 8], [9]⟩]
      lookups := [⟨key 20, [1], [0]⟩, ⟨key 21, [0], []⟩] }
    let w : WalletMessage := ⟨⟨3, 2, 2⟩, m.keys, m.instructions, m.lookups⟩
    let tables : List LookupTable := [⟨key 20, [key 9, key 7]⟩, ⟨key 21, [key 8]⟩]
    m.wrap = .ok w ∧ m.WrapsTo w ∧ w.decompile tables = .ok [⟨key 9, [
      ⟨key 1, ⟨true, true⟩⟩, ⟨key 2, ⟨true, true⟩⟩, ⟨key 3, ⟨true, false⟩⟩,
      ⟨key 4, ⟨false, true⟩⟩, ⟨key 5, ⟨false, true⟩⟩, ⟨key 6, ⟨false, false⟩⟩,
      ⟨key 7, ⟨false, true⟩⟩, ⟨key 8, ⟨false, true⟩⟩, ⟨key 9, ⟨false, false⟩⟩], [9]⟩] := by
  intro key m w tables
  have hwrap : m.wrap = .ok w := by decide +kernel
  exact ⟨hwrap, (wrap_keepsRoles m).2 w hwrap, by decide +kernel⟩

end TransactionMessage

end Cosigner
