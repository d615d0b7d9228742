import Cosigner.Proofs.Message.Decompile
import Cosigner.Wallet.Sync

/-!
# One Message, Two Decompilers

A message can be buffered, or it can be executed at once. Both ways its
instructions have to be rebuilt before anyone is asked to authorize them, and
the two ways take the roles of accounts from different places. A buffered
message divides its own keys by its header and by segments. A message executed
at once compares places with the header's count of signers, and takes the rest
from the accounts of the instruction that carries it.

The two can only agree where the outer accounts say the same as the message, so
that is what is asked of them: they present the keys in the order of their
places, each writable exactly if the message makes it so. What they say of
signing does not matter. It has to be asked, however, that the header counts no
more signers than there are carried keys, since a buffered message never lets a
loaded key sign.

Then there is no difference left. Whichever place an instruction names, on the
boundary of two segments or beyond the last key, both find the same account or
both refuse the same place.

## Main definitions

* `WalletMessage.sync`: A message in the form in which it is executed at once.
* `KeySpace.PresentedBy`: Accounts that say the same as a message.
* `SyncError.SamePlace`: Two refusals of the same place.

## Theorems

* `KeySpace.role_signer`: Loaded keys lie behind all signers.
* `KeySpace.PresentedBy.match_refAt`: A place comes back as the same account.
* `WalletMessage.match_decompile`: Both outcomes match.
* `WalletMessage.decompile_sync`: Both succeed alike and refuse alike.
-/

namespace Cosigner

/-- The message in the form in which it is executed at once, given the keys that
    it loads. -/
def WalletMessage.sync (m : WalletMessage) (loaded : LoadedKeys) : SyncMessage where
  header := m.header
  keyCount := UInt8.ofNat (m.keys.length + loaded.length)
  instructions := m.instructions
  tableCount := UInt8.ofNat m.lookups.length

/-- Accounts present the keys of a message in the order of their places. -/
structure KeySpace.PresentedBy (s : KeySpace) (header : Header) (refs : List AccountRef) :
    Prop where
  -- One account for each key.
  keys : refs.map (·.key) = s.toList
  -- Writable as the message has it; signing is left open.
  writable : ∀ (place : Nat) (h : place < refs.length),
    refs[place].role.writable = (s.role header place).writable

/-- Two refusals of the same place, one of them with the number of keys. -/
def SyncError.SamePlace (count : Nat) (e : SyncError) (e' : MessageError) : Prop :=
  ∃ index, e = .badIndex index count ∧ e' = .badIndex index

namespace KeySpace

variable (s : KeySpace) (header : Header) (refs : List AccountRef)

-- The header alone says who signs, if all signers are carried.
theorem role_signer (place : Nat) (h : header.signers.toNat ≤ s.carried.length) :
    (s.role header place).signer = header.isSigner place := by
  unfold role
  by_cases hcarried : place < s.carried.length
  · rw [if_pos hcarried]
    rfl
  · rw [if_neg hcarried]
    have hbeyond : ¬ place < header.signers.toNat := by omega
    exact (decide_eq_false hbeyond).symm

theorem PresentedBy.length_eq (h : s.PresentedBy header refs) : refs.length = s.length := by
  have hkeys := congrArg List.length h.keys
  rw [List.length_map] at hkeys
  rw [hkeys, toList, LoadedKeys.toList, List.length_append, List.length_append]
  rfl

/-- A place is found among the outer accounts exactly if it is one of a key. -/
theorem PresentedBy.match_keyAt (h : s.PresentedBy header refs) (place : UInt8) :
    Outcome.Match (fun ref key => refs[place.toNat]? = some ref ∧ ref.key = key)
      (SyncError.SamePlace s.length) (SyncMessage.keyAt refs place) (s.keyAt place) := by
  have hget : s.get? place.toNat = (refs[place.toNat]?).map (·.key) := by
    rw [get?, ← h.keys, List.getElem?_map]
  unfold SyncMessage.keyAt keyAt
  rw [hget, ← h.length_eq]
  cases refs[place.toNat]? with
  | none => exact ⟨place, rfl, rfl⟩
  | some ref => exact ⟨rfl, rfl⟩

/-- A place comes back as the same account. Its key and whether it may be written
    to are the outer account's; whether it signs is the header's. -/
theorem PresentedBy.match_refAt (h : s.PresentedBy header refs) (m : SyncMessage)
    (hheader : m.header = header) (hsigners : header.signers.toNat ≤ s.carried.length)
    (place : UInt8) :
    Outcome.Match Eq (SyncError.SamePlace s.length) (m.refAt refs place)
      (s.refAt header place) := by
  have hkey := h.match_keyAt s header refs place
  refine Outcome.Match.bind _ _ _ _ _ _ _ hkey fun ref key hfound => ?_
  rcases hfound with ⟨href, rfl⟩
  rcases List.getElem?_eq_some_iff.mp href with ⟨hlt, hget⟩
  have hwritable : ref.role.writable = (s.role header place.toNat).writable := by
    rw [← hget]
    exact h.writable place.toNat hlt
  have hrole : (⟨m.header.isSigner place.toNat, ref.role.writable⟩ : Role) =
      s.role header place.toNat := by
    rw [hheader, hwritable, ← s.role_signer header place.toNat hsigners]
  exact congrArg (AccountRef.mk ref.key) hrole

/-- Instructions are resolved alike, or refused with the same place. -/
theorem PresentedBy.match_resolve (h : s.PresentedBy header refs) (m : SyncMessage)
    (hheader : m.header = header) (hsigners : header.signers.toNat ≤ s.carried.length)
    (ix : IndexedInstruction) :
    Outcome.Match Eq (SyncError.SamePlace s.length) (m.resolve refs ix) (s.resolve header ix) := by
  -- The program first, then the accounts in their order.
  have hprogram := h.match_keyAt s header refs ix.program
  refine Outcome.Match.bind _ _ _ _ _ _ _ hprogram fun ref key hfound => ?_
  rcases hfound with ⟨_, rfl⟩
  have haccounts := Outcome.match_mapM Eq _ _ _ ix.accounts fun place _ =>
    h.match_refAt s header refs m hheader hsigners place
  refine Outcome.Match.bind _ _ _ _ _ _ _ haccounts fun found found' hfound => ?_
  rw [List.forall₂_eq_eq_eq] at hfound
  exact congrArg (Instruction.mk ref.key · ix.data) hfound

end KeySpace

/-- The keys of a message are the accounts behind the leading ones and the tables. -/
theorem SyncMessage.window_eq_ok (m : SyncMessage) (outer : Instruction)
    (leading tables keys rest : List AccountRef)
    (houter : outer.accounts = leading ++ tables ++ keys ++ rest)
    (hleading : leading.length = leadingAccounts) (htables : tables.length = m.tableCount.toNat)
    (hkeys : keys.length = m.keyCount.toNat) : m.window outer = .ok keys := by
  have hstart : (leading ++ tables).length = leadingAccounts + m.tableCount.toNat := by
    rw [List.length_append, hleading, htables]
  have hroom : leadingAccounts + m.tableCount.toNat + m.keyCount.toNat ≤ outer.accounts.length := by
    rw [houter, List.length_append, List.length_append, hstart, hkeys]
    exact Nat.le_add_right _ _
  unfold window
  rw [if_pos hroom, houter, List.append_assoc, List.drop_left' hstart, List.take_left' hkeys]

section Decompile

variable (m : WalletMessage) (tables : List LookupTable) (loaded : LoadedKeys)
  (outer : Instruction) (leading tableRefs keys rest : List AccountRef)

-- Behind the windows, the two decompilers take the same steps.
theorem WalletMessage.match_decompile (hloaded : m.loadedKeys tables = .ok loaded)
    (hsigners : m.header.signers.toNat ≤ m.keys.length) (hlookups : m.lookups.length ≤ 255)
    (hcount : m.keys.length + loaded.length ≤ 255)
    (houter : outer.accounts = leading ++ tableRefs ++ keys ++ rest)
    (hleading : leading.length = 3) (htables : tableRefs.length = m.lookups.length)
    (hkeys : (KeySpace.mk m.keys loaded).PresentedBy m.header keys) :
    Outcome.Match Eq (SyncError.SamePlace (m.keys.length + loaded.length))
      ((m.sync loaded).decompile outer) (m.decompile tables) := by
  -- Both counts fit into a byte, so the window is where the keys are.
  have htableCount : (m.sync loaded).tableCount.toNat = m.lookups.length :=
    UInt8.toNat_ofNat_of_lt' (by change _ < 256; omega)
  have hkeyCount : (m.sync loaded).keyCount.toNat = m.keys.length + loaded.length :=
    UInt8.toNat_ofNat_of_lt' (by change _ < 256; omega)
  have hwindow : (m.sync loaded).window outer = .ok keys :=
    SyncMessage.window_eq_ok _ _ _ _ _ _ houter hleading (htables.trans htableCount.symm)
      ((hkeys.length_eq _ _ _).trans hkeyCount.symm)
  have hsteps := Outcome.match_mapM Eq _ _ _ m.instructions fun ix _ =>
    hkeys.match_resolve _ _ _ (m.sync loaded) rfl hsigners ix
  rw [List.forall₂_eq_eq_eq] at hsteps
  unfold SyncMessage.decompile decompile
  rw [hwindow, hloaded]
  exact hsteps

/-- A message that is executed at once comes back as the instructions that it
    comes back as from a buffer, if it comes back at all. If it does not, both
    refuse the same place. The outer instruction hands over three accounts, one
    account for each table, the keys and whatever else. -/
theorem WalletMessage.decompile_sync (hloaded : m.loadedKeys tables = .ok loaded)
    (hsigners : m.header.signers.toNat ≤ m.keys.length) (hlookups : m.lookups.length ≤ 255)
    (hcount : m.keys.length + loaded.length ≤ 255)
    (houter : outer.accounts = leading ++ tableRefs ++ keys ++ rest)
    (hleading : leading.length = 3) (htables : tableRefs.length = m.lookups.length)
    (hkeys : (KeySpace.mk m.keys loaded).PresentedBy m.header keys) :
    (∀ ixs, (m.sync loaded).decompile outer = .ok ixs ↔ m.decompile tables = .ok ixs) ∧
      ∀ e, (m.sync loaded).decompile outer = .error e →
        ∃ place, e = .badIndex place (m.keys.length + loaded.length) ∧
          m.decompile tables = .error (.badIndex place) := by
  have hmatch := m.match_decompile tables loaded outer leading tableRefs keys rest hloaded
    hsigners hlookups hcount houter hleading htables hkeys
  refine ⟨hmatch.eq_ok_iff _ _ _, fun e he => ?_⟩
  cases hdecompiled : m.decompile tables with
  | ok ixs =>
      rw [he, hdecompiled] at hmatch
      exact False.elim hmatch
  | error e' =>
      rw [he, hdecompiled] at hmatch
      rcases hmatch with ⟨place, rfl, rfl⟩
      exact ⟨place, rfl, rfl⟩

end Decompile

/-- A message with two carried keys, of which one signs, and one key loaded for
    each role. The first instruction names the places next to every boundary. The
    outer accounts have all signer flags the wrong way round. -/
theorem WalletMessage.decompile_sync_boundaries :
    let key (n : UInt8) : Address := Octets.replicate 32 n
    let m : WalletMessage := {
      header := ⟨1, 1, 0⟩
      keys := [key 1, key 2]
      instructions := [⟨1, [0, 1, 2, 3], [7]⟩, ⟨2, [], []⟩]
      lookups := [⟨key 20, [1], [0]⟩] }
    let tables : List LookupTable := [⟨key 20, [key 4, key 3]⟩]
    let loaded : LoadedKeys := ⟨[key 3], [key 4]⟩
    let leading : List AccountRef := List.replicate 3 ⟨key 9, .payer⟩
    let tableRefs : List AccountRef := [⟨key 20, .plain⟩]
    let keys : List AccountRef := [⟨key 1, ⟨false, true⟩⟩, ⟨key 2, ⟨true, false⟩⟩,
      ⟨key 3, ⟨true, true⟩⟩, ⟨key 4, ⟨true, false⟩⟩]
    let rest : List AccountRef := [⟨key 8, .payer⟩]
    let outer : Instruction := ⟨key 30, leading ++ tableRefs ++ keys ++ rest, []⟩
    let ixs : List Instruction := [
      ⟨key 2, [⟨key 1, ⟨true, true⟩⟩, ⟨key 2, .plain⟩, ⟨key 3, ⟨false, true⟩⟩, ⟨key 4, .plain⟩],
        [7]⟩,
      ⟨key 3, [], []⟩]
    m.loadedKeys tables = .ok loaded ∧ m.header.signers.toNat ≤ m.keys.length ∧
      m.lookups.length ≤ 255 ∧ m.keys.length + loaded.length ≤ 255 ∧
      (KeySpace.mk m.keys loaded).PresentedBy m.header keys ∧
      m.decompile tables = .ok ixs ∧ (m.sync loaded).decompile outer = .ok ixs := by
  intro key m tables loaded leading tableRefs keys rest outer ixs
  have hloaded : m.loadedKeys tables = .ok loaded := by decide +kernel
  have hdecompiled : m.decompile tables = .ok ixs := by decide +kernel
  have hpresented : (KeySpace.mk m.keys loaded).PresentedBy m.header keys :=
    ⟨by decide +kernel, by decide +kernel⟩
  have hsync := m.decompile_sync tables loaded outer leading tableRefs keys rest hloaded
    (by decide) (by decide) (by decide) rfl rfl rfl hpresented
  exact ⟨hloaded, by decide, by decide, by decide, hpresented, hdecompiled,
    (hsync.1 ixs).mpr hdecompiled⟩

end Cosigner
