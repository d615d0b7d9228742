import Cosigner.Message.Compile
import Cosigner.Message.Native
import Cosigner.Proofs.Outcome

/-!
# What Decompiling Yields

Decompiling answers a place with a key and a role, and both come from the flat
sequence. This module says what each step of it comes out with, and then who
signs: an account comes back with the signer flag only if the message carries
its key among the first ones, as many as the header counts signers. Loaded keys
come after all carried keys and never sign.

The message of a transaction keeps its count of signers when it is wrapped, so
the same is true of it, with its own header.

## Theorems

* `KeySpace.refAt_eq_ok`, `KeySpace.resolve_eq_ok`: What a place and an
  instruction come back as.
* `WalletMessage.decompile_eq_ok`: What a message comes back as.
* `WalletMessage.decompile_signer`: Signing accounts are carried signers.
* `TransactionMessage.wrap_eq_ok`: What wrapping keeps.
-/

namespace Cosigner

namespace KeySpace

variable (s : KeySpace)

theorem keyAt_eq_ok (place : UInt8) (key : Address) :
    s.keyAt place = .ok key ↔ s.toList[place.toNat]? = some key := by
  unfold keyAt get?
  cases s.toList[place.toNat]? with
  | none => simp only [reduceCtorEq]
  | some found => simp only [Except.ok.injEq, Option.some.injEq]

/-- A place comes back as its key, with the role of the place. -/
theorem refAt_eq_ok (header : Header) (place : UInt8) (ref : AccountRef) :
    s.refAt header place = .ok ref ↔
      s.toList[place.toNat]? = some ref.key ∧ ref.role = s.role header place.toNat := by
  unfold refAt
  simp only [Outcome.bind_eq_ok, Outcome.pure_eq_ok, keyAt_eq_ok]
  constructor
  · intro h
    rcases h with ⟨key, hkey, rfl⟩
    exact ⟨hkey, rfl⟩
  · intro h
    rcases h with ⟨hkey, hrole⟩
    exact ⟨ref.key, hkey, by rw [← hrole]⟩

/-- An instruction comes back with the keys of its places. -/
theorem resolve_eq_ok (header : Header) (ix : IndexedInstruction) (found : Instruction) :
    s.resolve header ix = .ok found ↔
      s.toList[ix.program.toNat]? = some found.program ∧
        List.Forall₂ (fun place ref => s.refAt header place = .ok ref) ix.accounts
          found.accounts ∧
        found.data = ix.data := by
  unfold resolve
  simp only [Outcome.bind_eq_ok, Outcome.pure_eq_ok, keyAt_eq_ok, Outcome.mapM_eq_ok]
  constructor
  · intro h
    rcases h with ⟨program, hprogram, accounts, haccounts, rfl⟩
    exact ⟨hprogram, haccounts, rfl⟩
  · intro h
    rcases h with ⟨hprogram, haccounts, hdata⟩
    exact ⟨found.program, hprogram, found.accounts, haccounts, by rw [← hdata]⟩

/-- A place that signs is the place of a carried key among the first ones. -/
theorem refAt_signer (header : Header) (place : UInt8) (ref : AccountRef)
    (h : s.refAt header place = .ok ref) (hsigner : ref.role.signer = true) :
    ref.key ∈ s.carried.take header.signers.toNat := by
  rcases (s.refAt_eq_ok header place ref).mp h with ⟨hkey, hrole⟩
  rw [hrole, role] at hsigner
  by_cases hcarried : place.toNat < s.carried.length
  · rw [if_pos hcarried] at hsigner
    have hplace : place.toNat < header.signers.toNat := of_decide_eq_true hsigner
    rw [toList, List.getElem?_append_left hcarried, ← List.getElem?_take_of_lt hplace] at hkey
    exact List.mem_of_getElem? hkey
  · -- Loaded keys have no signer flag.
    rw [if_neg hcarried] at hsigner
    exact absurd hsigner Bool.false_ne_true

end KeySpace

namespace WalletMessage

/-- A message comes back as its instructions, one by one, once its keys are
    loaded. -/
theorem decompile_eq_ok (m : WalletMessage) (tables : List LookupTable)
    (ixs : List Instruction) :
    m.decompile tables = .ok ixs ↔ ∃ loaded, m.loadedKeys tables = .ok loaded ∧
      List.Forall₂ (fun ix found => (KeySpace.mk m.keys loaded).resolve m.header ix = .ok found)
        m.instructions ixs := by
  unfold decompile KeySpace.resolveAll
  simp only [Outcome.bind_eq_ok, Outcome.mapM_eq_ok]

/-- An account that comes back with the signer flag is one of the first carried
    keys, as many as the header counts signers. -/
theorem decompile_signer (m : WalletMessage) (tables : List LookupTable)
    (ixs : List Instruction) (h : m.decompile tables = .ok ixs) (ix : Instruction) (hix : ix ∈ ixs)
    (ref : AccountRef) (href : ref ∈ ix.accounts) (hsigner : ref.role.signer = true) :
    ref.key ∈ m.keys.take m.header.signers.toNat := by
  rcases (m.decompile_eq_ok tables ixs).mp h with ⟨loaded, _, hall⟩
  rcases Outcome.mem_of_forall₂_right _ _ _ hall ix hix with ⟨_, _, hresolve⟩
  rcases (KeySpace.resolve_eq_ok _ _ _ _).mp hresolve with ⟨_, haccounts, _⟩
  rcases Outcome.mem_of_forall₂_right _ _ _ haccounts ref href with ⟨place, _, hplace⟩
  exact KeySpace.refAt_signer _ m.header place ref hplace hsigner

end WalletMessage

namespace TransactionMessage

theorem header_signers (m : TransactionMessage) (header : Header) (h : m.header = .ok header) :
    header.signers = m.signers := by
  unfold TransactionMessage.header at h
  rcases (Outcome.ite_error_eq_ok _ _ _ _).mp h with ⟨_, h⟩
  rcases (Outcome.ite_else_error_eq_ok _ _ _ _).mp h with ⟨_, h⟩
  rw [← Except.ok.inj h]

/-- Wrapping keeps everything but the way in which keys are counted. -/
theorem wrap_eq_ok (m : TransactionMessage) (wrapped : WalletMessage) :
    m.wrap = .ok wrapped ↔ m.header = .ok wrapped.header ∧ wrapped.keys = m.keys ∧
      wrapped.instructions = m.instructions ∧ wrapped.lookups = m.lookups := by
  unfold wrap
  simp only [Outcome.bind_eq_ok, Outcome.pure_eq_ok]
  constructor
  · intro h
    rcases h with ⟨header, hheader, rfl⟩
    exact ⟨hheader, rfl, rfl, rfl⟩
  · intro h
    rcases h with ⟨hheader, hkeys, hinstructions, hlookups⟩
    exact ⟨wrapped.header, hheader, by rw [← hkeys, ← hinstructions, ← hlookups]⟩

end TransactionMessage

end Cosigner
