import Cosigner.Proofs.Audit.Dealing
import Cosigner.Proofs.Message.Decompile

/-!
# Plain Signers Signed the Transaction

A plain signer is believed without any check of its own, because the chain
checks the signatures of a transaction. That is right only if the key is one
that the chain asks a signature of. Between the message and the report stand
decompiling, routing and verifying, and each could make up a signer flag.

None does. Verifying hands plain signers on as they are, routing takes them from
the accounts of the instruction, and decompiling gives the flag to carried keys
among the first ones alone. The flags of accounts inside a carried message never
come near: routing reads them only into what is authorized, not into who
authorizes.

## Main definitions

* `VerifiedObligation.plainKeys`: The plain signers that are reported.
* `PlainlySigned`: They are signers of the transaction.

## Theorems

* `plainKeys_of_settled`: The plain signers reported are those of the
  instruction.
* `TransactionMessage.decompile_signer`: Signing accounts are signers of the
  transaction.
* `Auditor.verifyTransaction_plainlySigned`: They signed the transaction.
-/

namespace Cosigner

/-- The key of a plain signer. -/
def Signer.plainKey? : Signer → Option Address
  | .plain key => some key
  | .passkey _ _ => none

/-- The key of a plain signer that was verified. -/
def VerifiedSigner.plainKey? : VerifiedSigner → Option Address
  | .plain key _ => some key
  | .passkey _ _ _ _ _ => none

/-- The plain signers that are reported, in order. -/
def VerifiedObligation.plainKeys (vo : VerifiedObligation) : List Address :=
  vo.signers.filterMap (·.plainKey?)

/-- The plain signers that are reported for an instruction of a transaction are
    signers of the transaction. -/
structure PlainlySigned (m : TransactionMessage) (ix : Instruction) (vo : VerifiedObligation) :
    Prop where
  -- Each is reported once.
  once : vo.plainKeys.Nodup
  -- The transaction asks for their signatures.
  asked : ∀ key ∈ vo.plainKeys, key ∈ m.keys.take m.signers.toNat
  -- None of them is the account that pays.
  unpaying : ∀ key ∈ vo.plainKeys, m.keys.head? ≠ some key
  -- The instruction hands them over with the signer flag.
  flagged : ∀ key ∈ vo.plainKeys, ∃ ref ∈ ix.accounts, ref.key = key ∧ ref.role.signer = true

theorem plainKeys_of_matches (signers : List Signer) (verified : List VerifiedSigner)
    (h : List.Forall₂ VerifiedSigner.Matches signers verified) :
    verified.filterMap (·.plainKey?) = signers.filterMap (·.plainKey?) := by
  induction h with
  | nil => rfl
  | @cons s vs _ _ hmatch _ ih =>
      have hkey : vs.plainKey? = s.plainKey? := by
        cases s with
        | plain key =>
            cases vs with
            | plain key' wallet => exact congrArg some hmatch
            | passkey key' wallet client deviceKey provider => exact hmatch.elim
        | passkey key proof =>
            cases vs with
            | plain key' wallet => exact hmatch.elim
            | passkey key' wallet client deviceKey provider => rfl
      rw [List.filterMap_cons, List.filterMap_cons, hkey, ih]

/-- The plain signers reported are those of the instruction. -/
theorem plainKeys_of_settled (v : Verifier) (c : RouteContext) (ix : Instruction)
    (o : Obligation) (vo : VerifiedObligation) (ho : (c.process ix).result = .ok (some o))
    (hvo : Settled v o vo) : vo.plainKeys = plainSigners c.feePayer ix := by
  rcases c.process_signers ix o ho with ⟨passkeys, hnamed, hsigners⟩
  -- The passkeys behind the plain signers contribute no key.
  have hnone : passkeys.filterMap (·.plainKey?) = [] := by
    rw [List.filterMap_eq_nil_iff]
    intro s hs
    rcases Outcome.mem_of_forall₂_right _ _ _ hnamed s hs with ⟨_, _, _, _, rfl⟩
    rfl
  rw [VerifiedObligation.plainKeys, plainKeys_of_matches o.signers vo.signers hvo.signers,
    hsigners, List.filterMap_append, hnone, List.append_nil, List.filterMap_map]
  exact List.filterMap_some

/-- An account that comes back with the signer flag is one of the first keys of the
    transaction, as many as it asks signatures of. -/
theorem TransactionMessage.decompile_signer (m : TransactionMessage) (accounts : AccountStore)
    (ixs : List Instruction) (h : (m.decompile accounts).result = .ok ixs) (ix : Instruction)
    (hix : ix ∈ ixs) (ref : AccountRef) (href : ref ∈ ix.accounts)
    (hsigner : ref.role.signer = true) : ref.key ∈ m.keys.take m.signers.toNat := by
  unfold decompile at h
  simp only [Query.result_bind_eq_ok, Query.result_ofExcept, understood,
    Outcome.mapError_eq_ok] at h
  rcases h with ⟨wrapped, hwrap, tables, _, hixs⟩
  rcases (m.wrap_eq_ok wrapped).mp hwrap with ⟨hheader, hkeys, _, _⟩
  rw [← hkeys, ← m.header_signers wrapped.header hheader]
  exact wrapped.decompile_signer tables ixs hixs ix hix ref href hsigner

namespace Auditor

/-- Whatever the transaction, the ledger and the responses are: the plain signers
    that are reported for an instruction are keys whose signatures the
    transaction asks for. -/
theorem verifyTransaction_plainlySigned (a : Auditor) (cache : ClientCache)
    (m : TransactionMessage) (rs : List TimedResponse) (vos : List VerifiedObligation)
    (h : (a.verifyTransaction cache m rs).1.result = .ok vos) :
    ∃ ixs, (m.decompile a.ledger.accounts).result = .ok ixs ∧
      List.Forall₂ (PlainlySigned m) (obliging a.verifier.program ixs) vos := by
  rcases a.verifyTransaction_dealt cache m rs vos h with
    ⟨feePayer, ixs, messages, os, hpayer, hixs, _, hos, _, hsettled, _⟩
  have hentries := (List.forall₂_and_left _ _).mpr
    ⟨fun ix hix => hix, Outcome.forall₂_comp _ _ _ _ _ hos hsettled⟩
  refine ⟨ixs, hixs, hentries.imp fun ix vo hentry => ?_⟩
  rcases hentry with ⟨hix, o, ho, hvo⟩
  have hmem : ix ∈ ixs := List.mem_of_mem_filter hix
  have hkeys := plainKeys_of_settled a.verifier _ ix o vo ho hvo
  -- A plain signer is an account of the instruction with the signer flag.
  have hplain : ∀ key ∈ vo.plainKeys,
      (∃ ref ∈ ix.accounts, ref.key = key ∧ ref.role.signer = true) ∧ key ≠ feePayer := by
    intro key hkey
    rw [hkeys] at hkey
    exact (mem_plainSigners feePayer ix key).mp hkey
  refine ⟨?_, fun key hkey => ?_, fun key hkey hhead => ?_, fun key hkey => (hplain key hkey).1⟩
  · rw [hkeys]
    exact nodup_plainSigners feePayer ix
  · rcases (hplain key hkey).1 with ⟨ref, href, rfl, hsigner⟩
    exact m.decompile_signer a.ledger.accounts ixs hixs ix hmem ref href hsigner
  · -- The first key pays, and the one that pays was left out.
    have hpays : m.feePayer = .ok key := by
      unfold TransactionMessage.feePayer
      rcases List.head?_eq_some_iff.mp hhead with ⟨rest, hcons⟩
      rw [hcons]
    exact (hplain key hkey).2 (Except.ok.inj (hpays.symm.trans hpayer))

/-- A message that is executed at once and asks for a signature of the fourth key,
    which is no signer of the transaction. The instruction hands over the account
    that pays once and the second key twice; only the second key is reported. -/
theorem verifyTransaction_plainlySigned_sync :
    let key (n : UInt8) : Address := Octets.replicate 32 n
    let execute : ExecuteSync := ⟨⟨⟨1, 1, 0⟩, 2, [⟨1, [0], [9]⟩], 0⟩, []⟩
    let m : TransactionMessage := {
      signers := 2
      readonlySigners := 0
      readonlyNonSigners := 1
      keys := [key 1, key 2, key 3, key 4, Program.wallet]
      instructions := [
        ⟨4, [2, 0, 1, 3, 1], Operation.transactionExecuteSync.encode .executeSync execute⟩]
      lookups := [] }
    let a : Auditor := {
      ledger := ⟨fun _ => .ok none, fun _ => .ok none⟩
      verifier := ⟨Program.wallet, .standard, 0, fun _ => .error "unreachable"⟩ }
    let vos : List VerifiedObligation := [{
      settings := some (key 3)
      signers := [.plain (key 2) (some (vaultAddress Program.wallet (key 3)))]
      instructions := [⟨key 2, [⟨key 4, ⟨true, true⟩⟩], [9]⟩] }]
    (a.verifyTransaction .empty m []).1.result = .ok vos ∧
      ∃ ixs, (m.decompile a.ledger.accounts).result = .ok ixs ∧
        List.Forall₂ (PlainlySigned m) (obliging a.verifier.program ixs) vos := by
  intro key execute m a vos
  have hvos : (a.verifyTransaction .empty m []).1.result = .ok vos := by decide +kernel
  exact ⟨hvos, verifyTransaction_plainlySigned a .empty m [] vos hvos⟩

end Auditor

end Cosigner
