import Cosigner.Proofs.Message.Unchecked
import Cosigner.Wallet.Sync

/-!
# The Window of a Message Executed at Once

The keys of a message that is executed at once are accounts of the instruction
that carries it. Where they stand is worked out from two counts that the message
itself supplies, so whoever writes the message decides where its keys are looked
for. In front of them are the settings, two accounts of the system and the lookup
tables, and behind them may be anything. None of these must ever be taken for a
key, whatever the counts are.

Places are compared with the number of keys and not with the number of accounts,
so all of this is about one window. `SyncMessage.HandsOver` says what stands at a
place of it, and it says nothing about the rest of the outer accounts. Decompiling
is then described by it alone: what comes back, and whether anything does. Two
outer instructions that hand over the same keys are therefore not told apart, no
matter how they differ outside of the window.

The one thing that the rest decides is whether the window is complete. If it is
not, this is reported before any place is looked at.

## Main definitions

* `SyncMessage.HasWindow`: An outer instruction with all accounts of the window.
* `SyncMessage.HandsOver`: The outer account at a place of the window.
* `SyncMessage.Presents`, `SyncMessage.Spells`: What a place and an instruction
  stand for.
* `SyncMessage.SameWindow`: Outer instructions with the same keys.
* `SyncMessage.ReadsWindow`: Decompiling as a function of the window.

## Theorems

* `SyncMessage.window_of_complete`, `SyncMessage.window_of_short`: The window.
* `SyncMessage.decompile_eq_error_of_complete`: The first bad place is reported.
* `SyncMessage.decompile_eq_ok_iff_spells`: What comes back.
* `SyncMessage.SameWindow.decompile_eq`: The window is all that matters.
* `SyncMessage.decompile_readsWindow`: Decompiling, in all cases.
-/

namespace Cosigner

namespace SyncMessage

/-- The outer instruction hands over all accounts up to the end of the window: three
    leading ones, one for each table and one for each key. -/
def HasWindow (m : SyncMessage) (outer : Instruction) : Prop :=
  3 + m.tableCount.toNat + m.keyCount.toNat ≤ outer.accounts.length

/-- The outer account that is handed over as the key at a place: the place is below
    the number of keys, and the account stands as far behind the three leading
    accounts and the tables. -/
def HandsOver (m : SyncMessage) (outer : Instruction) (place : UInt8) (own : AccountRef) :
    Prop :=
  place.toNat < m.keyCount.toNat ∧
    outer.accounts[3 + m.tableCount.toNat + place.toNat]? = some own

/-- An account as a message presents it at a place. -/
structure Presents (m : SyncMessage) (outer : Instruction) (place : UInt8) (ref : AccountRef) :
    Prop where
  -- It has the key of the outer account, and may be written to if that one may.
  own : ∃ own, m.HandsOver outer place own ∧ ref.key = own.key ∧
    ref.role.writable = own.role.writable
  -- It signs if the message counts it among the signers.
  signer : ref.role.signer = true ↔ place.toNat < m.header.signers.toNat

/-- An instruction as a message spells it. -/
structure Spells (m : SyncMessage) (outer : Instruction) (ix : IndexedInstruction)
    (found : Instruction) : Prop where
  program : ∃ own, m.HandsOver outer ix.program own ∧ found.program = own.key
  accounts : List.Forall₂ (m.Presents outer) ix.accounts found.accounts
  data : found.data = ix.data

/-- The first place that an instruction of the message names and that has no key. -/
def badPlace? (m : SyncMessage) : Option UInt8 :=
  (m.instructions.flatMap (·.places)).find? fun place => m.keyCount.toNat ≤ place.toNat

section Keys

variable (m : SyncMessage) (keys : List AccountRef)

-- A place is a place in the window.
theorem keyAt_eq_ok (place : UInt8) (key : AccountRef) :
    keyAt keys place = .ok key ↔ keys[place.toNat]? = some key := by
  unfold keyAt
  cases keys[place.toNat]? with
  | none => simp only [reduceCtorEq]
  | some found => simp only [Except.ok.injEq, Option.some.injEq]

theorem keyAt_eq_error (place : UInt8) (e : SyncError) :
    keyAt keys place = .error e ↔
      decide (keys.length ≤ place.toNat) = true ∧ .badIndex place keys.length = e := by
  unfold keyAt
  rw [decide_eq_true_iff, ← List.getElem?_eq_none_iff]
  cases keys[place.toNat]? with
  | none => simp only [Except.error.injEq, true_and]
  | some key => simp only [reduceCtorEq, false_and]

/-- Whether an account signs is said by the message, and whether it is writable by the
    outer instruction. -/
theorem refAt_eq_ok (place : UInt8) (ref : AccountRef) :
    m.refAt keys place = .ok ref ↔
      ∃ own, keys[place.toNat]? = some own ∧ ref.key = own.key ∧
        ref.role = ⟨m.header.isSigner place.toNat, own.role.writable⟩ := by
  unfold refAt
  simp only [Outcome.bind_eq_ok, Outcome.pure_eq_ok, keyAt_eq_ok]
  constructor
  · intro h
    rcases h with ⟨own, hown, rfl⟩
    exact ⟨own, hown, rfl, rfl⟩
  · intro h
    rcases h with ⟨own, hown, hkey, hrole⟩
    exact ⟨own, hown, by rw [← hkey, ← hrole]⟩

/-- An instruction is resolved place by place, with its own data. -/
theorem resolve_eq_ok (ix : IndexedInstruction) (found : Instruction) :
    m.resolve keys ix = .ok found ↔
      (∃ own, keys[ix.program.toNat]? = some own ∧ found.program = own.key) ∧
        List.Forall₂ (fun place ref => m.refAt keys place = .ok ref) ix.accounts found.accounts ∧
        found.data = ix.data := by
  unfold resolve
  simp only [Outcome.bind_eq_ok, Outcome.pure_eq_ok, keyAt_eq_ok, Outcome.mapM_eq_ok]
  constructor
  · intro h
    rcases h with ⟨own, hown, accounts, haccounts, rfl⟩
    exact ⟨⟨own, hown, rfl⟩, haccounts, rfl⟩
  · intro h
    rcases h with ⟨⟨own, hown, hprogram⟩, haccounts, hdata⟩
    exact ⟨own, hown, found.accounts, haccounts, by rw [← hprogram, ← hdata]⟩

-- The program is looked up first, then the accounts in their order.
theorem resolve_eq_error (ix : IndexedInstruction) (e : SyncError) :
    m.resolve keys ix = .error e ↔
      (ix.places.find? fun place => keys.length ≤ place.toNat).map (.badIndex · keys.length)
        = some e := by
  have href : ∀ place e', m.refAt keys place = .error e' ↔
      decide (keys.length ≤ place.toNat) = true ∧ .badIndex place keys.length = e' := by
    intro place e'
    rw [refAt, Outcome.bind_pure_eq_error, keyAt_eq_error]
  exact Outcome.cons_eq_error_of_bad (keyAt keys) (m.refAt keys)
    (fun program accounts => Instruction.mk program.key accounts ix.data) _ _
    (keyAt_eq_error keys) href ix.program ix.accounts e

end Keys

section Window

variable (m : SyncMessage) (outer : Instruction)

/-- An outer instruction with too few accounts is refused, and the refusal names both ends
    of the window. -/
theorem window_of_short (h : ¬ m.HasWindow outer) :
    m.window outer = .error (.tooFewAccounts (3 + m.tableCount.toNat)
      (3 + m.tableCount.toNat + m.keyCount.toNat) outer.accounts.length) :=
  if_neg h

/-- Too few accounts are the reason for the refusal, whatever the places are. -/
theorem decompile_of_short (h : ¬ m.HasWindow outer) :
    m.decompile outer = .error (.tooFewAccounts (3 + m.tableCount.toNat)
      (3 + m.tableCount.toNat + m.keyCount.toNat) outer.accounts.length) := by
  rw [decompile, m.window_of_short outer h, Outcome.error_bind]

section Complete

variable (hwindow : m.HasWindow outer)

include hwindow

/-- A complete window has a key at every place that is handed over. -/
theorem window_of_complete : ∃ keys, m.window outer = .ok keys ∧ keys.length = m.keyCount.toNat ∧
    ∀ place own, keys[UInt8.toNat place]? = some own ↔ m.HandsOver outer place own := by
  refine ⟨_, if_pos hwindow, ?_, fun place own => ?_⟩
  · unfold HasWindow at hwindow
    rw [List.length_take, List.length_drop, leadingAccounts]
    omega
  · rw [List.getElem?_take, List.getElem?_drop, Option.ite_none_right_eq_some]
    rfl

/-- With a complete window, the first place without a key is reported. -/
theorem decompile_eq_error_of_complete (e : SyncError) :
    m.decompile outer = .error e ↔
      m.badPlace?.map (.badIndex · m.keyCount.toNat) = some e := by
  rcases m.window_of_complete outer hwindow with ⟨keys, hread, hlength, _⟩
  rw [decompile, hread]
  change m.instructions.mapM (m.resolve keys) = .error e ↔ _
  rw [Outcome.mapM_eq_error_of_fault _ _ (m.resolve_eq_error keys), badPlace?, List.find?_flatMap,
    List.map_findSome?, hlength]
  rfl

/-- With a complete window, the message comes back as what it spells. -/
theorem decompile_eq_ok_iff_spells (ixs : List Instruction) :
    m.decompile outer = .ok ixs ↔ List.Forall₂ (m.Spells outer) m.instructions ixs := by
  rcases m.window_of_complete outer hwindow with ⟨keys, hread, _, hkeys⟩
  have href : ∀ place ref, m.refAt keys place = .ok ref ↔ m.Presents outer place ref := by
    intro place ref
    simp only [refAt_eq_ok, hkeys]
    constructor
    · intro h
      rcases h with ⟨own, hown, hkey, hrole⟩
      exact ⟨⟨own, hown, hkey, by rw [hrole]⟩, by rw [hrole]; exact decide_eq_true_iff⟩
    · intro h
      rcases h.own with ⟨own, hown, hkey, hwritable⟩
      refine ⟨own, hown, hkey, Role.eq_of_flags _ _ ?_ (by rw [hwritable])⟩
      exact h.signer.trans decide_eq_true_iff.symm
  have hresolve : ∀ ix found, m.resolve keys ix = .ok found ↔ m.Spells outer ix found := by
    intro ix found
    simp only [resolve_eq_ok, hkeys, href]
    exact ⟨fun h => ⟨h.1, h.2.1, h.2.2⟩, fun h => ⟨h.program, h.accounts, h.data⟩⟩
  rw [decompile, hread]
  change m.instructions.mapM (m.resolve keys) = .ok ixs ↔ _
  rw [Outcome.mapM_eq_ok]
  simp only [hresolve]

end Complete

/-- A message decompiles exactly if it has a window and all its places are inside. -/
theorem decompile_isOk : (∃ ixs, m.decompile outer = .ok ixs) ↔ m.HasWindow outer ∧
    ∀ ix ∈ m.instructions, ∀ place ∈ ix.places, place.toNat < m.keyCount.toNat := by
  by_cases hwindow : m.HasWindow outer
  · have hplaces : m.badPlace? = none ↔
        ∀ ix ∈ m.instructions, ∀ place ∈ ix.places, place.toNat < m.keyCount.toNat := by
      simp only [badPlace?, List.find?_eq_none, List.forall_mem_flatMap, decide_eq_true_eq,
        Nat.not_le]
    rw [and_iff_right hwindow, ← hplaces, Outcome.isOk_iff]
    simp only [m.decompile_eq_error_of_complete outer hwindow, ne_eq,
      ← Option.eq_none_iff_forall_ne_some, Option.map_eq_none_iff]
  · simp only [m.decompile_of_short outer hwindow, reduceCtorEq, exists_false, hwindow, false_and]

end Window

/-- Two outer instructions hand over the same window. At every position of it both have
    an account, with the same key, and one may be written to if the other may. Who signs
    is left open, and so is everything outside of the window. -/
structure SameWindow (m : SyncMessage) (outer outer' : Instruction) : Prop where
  complete : m.HasWindow outer
  complete' : m.HasWindow outer'
  same : ∀ position, 3 + m.tableCount.toNat ≤ position →
    position < 3 + m.tableCount.toNat + m.keyCount.toNat → ∀ own own',
      outer.accounts[position]? = some own → outer'.accounts[position]? = some own' →
        own.key = own'.key ∧ own.role.writable = own'.role.writable

namespace SameWindow

variable {m : SyncMessage} {outer outer' : Instruction} (h : m.SameWindow outer outer')

include h

theorem symm : m.SameWindow outer' outer where
  complete := h.complete'
  complete' := h.complete
  same position hstart hstop own own' hown hown' := by
    rcases h.same position hstart hstop own' own hown' hown with ⟨hkey, hwritable⟩
    exact ⟨hkey.symm, hwritable.symm⟩

/-- A key that is handed over has a counterpart in the other window. -/
theorem handsOver (place : UInt8) (own : AccountRef) (hown : m.HandsOver outer place own) :
    ∃ own', m.HandsOver outer' place own' ∧ own.key = own'.key ∧
      own.role.writable = own'.role.writable := by
  rcases hown with ⟨hplace, hown⟩
  have hposition := Nat.add_lt_add_left hplace (3 + m.tableCount.toNat)
  have hown' := List.getElem?_eq_getElem (Nat.lt_of_lt_of_le hposition h.complete')
  exact ⟨_, ⟨hplace, hown'⟩, h.same _ (Nat.le_add_right _ _) hposition _ _ hown hown'⟩

-- What a message spells depends on the window alone.
theorem spells (ix : IndexedInstruction) (found : Instruction) (hspells : m.Spells outer ix found) :
    m.Spells outer' ix found := by
  refine ⟨?_, hspells.accounts.imp fun place ref hpresents => ⟨?_, hpresents.signer⟩, hspells.data⟩
  · rcases hspells.program with ⟨own, hown, hprogram⟩
    rcases h.handsOver _ own hown with ⟨own', hown', hkey, _⟩
    exact ⟨own', hown', hprogram.trans hkey⟩
  · rcases hpresents.own with ⟨own, hown, hrefKey, hrefWritable⟩
    rcases h.handsOver place own hown with ⟨own', hown', hkey, hwritable⟩
    exact ⟨own', hown', hrefKey.trans hkey, hrefWritable.trans hwritable⟩

/-- Outer instructions that hand over the same window are not told apart. -/
theorem decompile_eq : m.decompile outer = m.decompile outer' := by
  refine Outcome.ext _ _ (fun ixs => ?_) fun e => ?_
  · rw [m.decompile_eq_ok_iff_spells outer h.complete,
      m.decompile_eq_ok_iff_spells outer' h.complete']
    exact ⟨fun hall => hall.imp h.spells, fun hall => hall.imp h.symm.spells⟩
  · rw [m.decompile_eq_error_of_complete outer h.complete,
      m.decompile_eq_error_of_complete outer' h.complete']

end SameWindow

/-- Decompiling as a function of the window. -/
structure ReadsWindow (m : SyncMessage) : Prop where
  -- It succeeds exactly if the window is complete and every place that an instruction
  -- names, for its program or for an account, is below the number of keys.
  success : ∀ outer, (∃ ixs, m.decompile outer = .ok ixs) ↔ m.HasWindow outer ∧
    ∀ ix ∈ m.instructions, ix.program.toNat < m.keyCount.toNat ∧
      ∀ place ∈ ix.accounts, place.toNat < m.keyCount.toNat
  -- An incomplete window is reported, whatever places are named.
  short : ∀ outer, ¬ m.HasWindow outer →
    m.decompile outer = .error (.tooFewAccounts (3 + m.tableCount.toNat)
      (3 + m.tableCount.toNat + m.keyCount.toNat) outer.accounts.length)
  -- With a complete window, the first place without a key is.
  bad : ∀ outer, m.HasWindow outer → ∀ e, m.decompile outer = .error e ↔
    ∃ place, m.badPlace? = some place ∧ e = .badIndex place m.keyCount.toNat
  -- What comes back has the outer keys, as far behind the leading accounts and the
  -- tables as the places say. They are writable as outer accounts, and they sign as the
  -- header says.
  keys : ∀ outer ixs, m.decompile outer = .ok ixs →
    List.Forall₂ (m.Spells outer) m.instructions ixs
  -- Nothing else has a part in it.
  window : ∀ outer outer', m.SameWindow outer outer' → m.decompile outer = m.decompile outer'

/-- Every message is decompiled from its window, whatever its counts are. -/
theorem decompile_readsWindow (m : SyncMessage) : m.ReadsWindow where
  success outer := by
    rw [m.decompile_isOk]
    simp only [IndexedInstruction.places, List.forall_mem_cons]
  short outer h := m.decompile_of_short outer h
  bad outer hwindow e := by
    rw [m.decompile_eq_error_of_complete outer hwindow, Option.map_eq_some_iff]
    simp only [eq_comm (a := e)]
  keys outer ixs h := by
    have hwindow := ((m.decompile_isOk outer).mp ⟨ixs, h⟩).1
    exact (m.decompile_eq_ok_iff_spells outer hwindow ixs).mp h
  window _ _ h := h.decompile_eq

-- Two tables and two keys. The leading accounts, the tables and what follows are other
-- ones in each of the three, and all signer flags too. One account less is reported, and
-- not that the second instruction names a place that no key has.
example :
    let key (n : UInt8) : Address := Octets.replicate 32 n
    let m (place : UInt8) : SyncMessage := ⟨⟨1, 1, 0⟩, 2, [⟨1, [0, 1], [7]⟩, ⟨0, [place], []⟩], 2⟩
    let outer (other : UInt8) (signer : Bool) (rest : List AccountRef) : Instruction :=
      ⟨key 30, List.replicate 5 ⟨key other, .payer⟩ ++ [⟨key 1, ⟨signer, true⟩⟩] ++ rest, []⟩
    let second (signer : Bool) : AccountRef := ⟨key 2, ⟨signer, false⟩⟩
    let ixs : List Instruction :=
      [⟨key 2, [⟨key 1, ⟨true, true⟩⟩, ⟨key 2, .plain⟩], [7]⟩, ⟨key 1, [⟨key 2, .plain⟩], []⟩]
    (m 1).decompile (outer 8 true [second false]) = .ok ixs ∧
      (m 1).decompile (outer 9 false [second true, ⟨key 3, .payer⟩]) = .ok ixs ∧
      (m 2).decompile (outer 8 true [second false]) = .error (.badIndex 2 2) ∧
      (m 2).decompile (outer 8 true []) = .error (.tooFewAccounts 5 7 6) := by
  decide +kernel

end SyncMessage

end Cosigner
