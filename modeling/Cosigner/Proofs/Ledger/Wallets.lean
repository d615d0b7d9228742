import Cosigner.Ledger.Wallets
import Cosigner.Proofs.Ledger.Retry
import Cosigner.Proofs.Outcome
import Cosigner.Proofs.Wallet.Derivation

/-!
# Wallets That Are Found and Wallets That Are Not

Settings are looked for in two places, and each of the two can answer with
settings, with nothing or with a failure. What comes out depends on the order of
the places, and not only for settings that are in both. Compressed state decides
alone unless it says that it holds nothing: if it cannot be read, or if what it
holds does not decode, the account is not looked at, whatever is in it.

So a wallet is found in one of two ways, and it is lacking in one of five, each
with a refusal of its own. These seven exclude each other and leave nothing out,
which is how a wallet that is found is known to be there.

A proof is asked for when this is done, and only for compressed settings. It adds
itself to the wallet and changes nothing else, and a wallet that is lacking is
lacking for the same reason. The number in the refusal is the one that was
configured. It is also the number of requests, unless it is zero: one request is
made even then.

## Main definitions

* `Ledger.AnswersCompressed`, `Ledger.AnswersAccount`: What is read about a wallet.
* `Ledger.HasWallet`: A wallet that is found.
* `Ledger.LacksWallet`: A wallet that is not found, with the refusal.
* `Query.proofRequests`: How often a query asks for a proof.
* `AddsProof`: What asking for a proof adds.

## Theorems

* `Ledger.hasWallet_or_lacksWallet`: A wallet is found or lacking.
* `resolveWallet_eq`: Looking for a wallet, by what compressed state answers.
* `resolveWallet_eq_ok`, `resolveWallet_eq_error`: What looking for a wallet comes
  out with.
* `resolveWallet_of_decided`: Compressed state decides alone.
* `resolveWalletWithProof_addsProof`: A proof is added and nothing else.
-/

namespace Cosigner

namespace Ledger

variable (ledger : Ledger) (program : Address) (index : WalletIndex)

/-- What compressed state answers about a wallet. -/
def AnswersCompressed (answer : Except String (Option CompressedAccount)) : Prop :=
  ∃ address, CompressedSettingsAt program index address ∧ ledger.compressed address = answer

/-- What is answered about the settings account of a wallet. -/
def AnswersAccount (answer : Except String (Option Bytes)) : Prop :=
  ∃ address, SettingsAt program index address ∧ ledger.accounts address = answer

/-- A wallet that is found, with the place and the settings there. -/
inductive HasWallet : SettingsPlace → Settings → Prop where
  /-- In compressed state, whatever its account holds. -/
  | compressed (account : CompressedAccount) (settings : Settings)
      (hfound : ledger.AnswersCompressed program index (.ok (some account)))
      (hdata : Settings.ofCompressedData account.data = .ok settings) :
      HasWallet (.compressed account) settings
  /-- In its account, and not in compressed state. -/
  | plain (data : Bytes) (settings : Settings)
      (hnone : ledger.AnswersCompressed program index (.ok none))
      (hfound : ledger.AnswersAccount program index (.ok (some data)))
      (hdata : Settings.ofAccountData data = .ok settings) :
      HasWallet .plain settings

/-- A wallet that is not found, with the refusal that says why. -/
inductive LacksWallet : Refusal → Prop where
  /-- Compressed state cannot be read. -/
  | compressedUnread (reason : String)
      (hread : ledger.AnswersCompressed program index (.error reason)) :
      LacksWallet (.connection reason)
  /-- Compressed state holds something else. -/
  | compressedMalformed (account : CompressedAccount) (e : LayoutError)
      (hfound : ledger.AnswersCompressed program index (.ok (some account)))
      (hdata : Settings.ofCompressedData account.data = .error e) :
      LacksWallet (.badData e)
  /-- Compressed state holds nothing, and the account cannot be read. -/
  | unread (reason : String)
      (hnone : ledger.AnswersCompressed program index (.ok none))
      (hread : ledger.AnswersAccount program index (.error reason)) :
      LacksWallet (.connection reason)
  /-- Compressed state holds nothing, and there is no account. -/
  | absent
      (hnone : ledger.AnswersCompressed program index (.ok none))
      (hread : ledger.AnswersAccount program index (.ok none)) :
      LacksWallet (.missingSettings index)
  /-- Compressed state holds nothing, and the account holds something else. -/
  | malformed (data : Bytes) (e : LayoutError)
      (hnone : ledger.AnswersCompressed program index (.ok none))
      (hfound : ledger.AnswersAccount program index (.ok (some data)))
      (hdata : Settings.ofAccountData data = .error e) :
      LacksWallet (.badData e)

-- A wallet has one address in compressed state, and it is the one that is read.
theorem answersCompressed_iff (answer : Except String (Option CompressedAccount)) :
    ledger.AnswersCompressed program index answer ↔
      ledger.compressed (compressedSettingsAddress program index) = answer := by
  simp only [AnswersCompressed, compressedSettingsAt_iff, exists_eq_left]

-- So it is with its settings account.
theorem answersAccount_iff (answer : Except String (Option Bytes)) :
    ledger.AnswersAccount program index answer ↔
      ledger.accounts (settingsAddress program index) = answer := by
  simp only [AnswersAccount, settingsAt_iff, exists_eq_left]

-- By the answer of compressed state, and where it holds nothing by that for the account.
theorem hasWallet_or_lacksWallet :
    (∃ place settings, ledger.HasWallet program index place settings) ∨
      ∃ r, ledger.LacksWallet program index r := by
  have hcompressed := (ledger.answersCompressed_iff program index _).mpr rfl
  generalize ledger.compressed (compressedSettingsAddress program index) = answer at hcompressed
  cases answer with
  | error reason => exact .inr ⟨_, .compressedUnread reason hcompressed⟩
  | ok found =>
      cases found with
      | some account =>
          cases hdata : Settings.ofCompressedData account.data with
          | error e => exact .inr ⟨_, .compressedMalformed account e hcompressed hdata⟩
          | ok settings => exact .inl ⟨_, _, .compressed account settings hcompressed hdata⟩
      | none =>
          have haccount := (ledger.answersAccount_iff program index _).mpr rfl
          generalize ledger.accounts (settingsAddress program index) = answer at haccount
          cases answer with
          | error reason => exact .inr ⟨_, .unread reason hcompressed haccount⟩
          | ok found =>
              cases found with
              | none => exact .inr ⟨_, .absent hcompressed haccount⟩
              | some data =>
                  cases hdata : Settings.ofAccountData data with
                  | error e => exact .inr ⟨_, .malformed data e hcompressed haccount hdata⟩
                  | ok settings =>
                      exact .inl ⟨_, _, .plain data settings hcompressed haccount hdata⟩

end Ledger

section Resolve

variable (ledger : Ledger) (program : Address) (index : WalletIndex)

/-- Looking for a wallet, by what compressed state answers. -/
theorem resolveWallet_eq : resolveWallet ledger program index =
    match ledger.compressed (compressedSettingsAddress program index) with
    | .error reason =>
      ⟨.error (.connection reason), [.compressed (compressedSettingsAddress program index)]⟩
    | .ok (some account) =>
      ⟨ofCompressed program index account,
        [.compressed (compressedSettingsAddress program index)]⟩
    | .ok none =>
      ⟨(resolvePlain ledger.accounts program index).result,
        [.compressed (compressedSettingsAddress program index),
          .account (settingsAddress program index)]⟩ := by
  simp only [resolveWallet, findCompressed]
  cases ledger.compressed (compressedSettingsAddress program index) with
  | error reason => rfl
  | ok found =>
      cases found with
      | none => rfl
      | some account => rfl

/-- A wallet is found where the ledger has it. -/
theorem resolveWallet_of_hasWallet (place : SettingsPlace) (settings : Settings)
    (h : ledger.HasWallet program index place settings) :
    (resolveWallet ledger program index).result =
      .ok ⟨settingsAddress program index, settings, place, none⟩ := by
  rw [resolveWallet_eq]
  cases h with
  | compressed account settings hfound hdata =>
      rw [ledger.answersCompressed_iff] at hfound
      simp only [hfound, ofCompressed, hdata]
  | plain data settings hnone hfound hdata =>
      rw [ledger.answersCompressed_iff] at hnone
      rw [ledger.answersAccount_iff] at hfound
      simp only [hnone, resolvePlain, Query.result_ask, hfound, hdata]

/-- A wallet that the ledger lacks is refused, and the refusal says how it is lacking. -/
theorem resolveWallet_of_lacksWallet (r : Refusal) (h : ledger.LacksWallet program index r) :
    (resolveWallet ledger program index).result = .error r := by
  rw [resolveWallet_eq]
  cases h with
  | compressedUnread reason hread =>
      rw [ledger.answersCompressed_iff] at hread
      simp only [hread]
  | compressedMalformed account e hfound hdata =>
      rw [ledger.answersCompressed_iff] at hfound
      simp only [hfound, ofCompressed, hdata]
  | unread reason hnone hread | absent hnone hread =>
      rw [ledger.answersCompressed_iff] at hnone
      rw [ledger.answersAccount_iff] at hread
      simp only [hnone, resolvePlain, Query.result_ask, hread]
  | malformed data e hnone hfound hdata =>
      rw [ledger.answersCompressed_iff] at hnone
      rw [ledger.answersAccount_iff] at hfound
      simp only [hnone, resolvePlain, Query.result_ask, hfound, hdata]

/-- A wallet that comes out is one that is there, under the address of its number. -/
theorem resolveWallet_eq_ok (w : ResolvedWallet) :
    (resolveWallet ledger program index).result = .ok w ↔
      SettingsAt program index w.address ∧ w.proof = none ∧
        ledger.HasWallet program index w.place w.settings := by
  rw [settingsAt_iff]
  rcases w with ⟨address, settings, place, proof⟩
  constructor
  · intro h
    rcases ledger.hasWallet_or_lacksWallet program index with ⟨_, _, hhas⟩ | ⟨r, hlacks⟩
    · rw [resolveWallet_of_hasWallet _ _ _ _ _ hhas, Except.ok.injEq, ResolvedWallet.mk.injEq] at h
      rcases h with ⟨haddress, rfl, rfl, hproof⟩
      exact ⟨haddress.symm, hproof.symm, hhas⟩
    · rw [resolveWallet_of_lacksWallet _ _ _ _ hlacks] at h
      exact absurd h (by simp only [reduceCtorEq, not_false_eq_true])
  · intro h
    rcases h with ⟨haddress, hproof, hhas⟩
    rw [resolveWallet_of_hasWallet _ _ _ _ _ hhas, Except.ok.injEq, ResolvedWallet.mk.injEq]
    exact ⟨haddress.symm, rfl, rfl, hproof.symm⟩

/-- A wallet is refused exactly for the reason for which the ledger lacks it. -/
theorem resolveWallet_eq_error (r : Refusal) :
    (resolveWallet ledger program index).result = .error r ↔
      ledger.LacksWallet program index r := by
  constructor
  · intro h
    rcases ledger.hasWallet_or_lacksWallet program index with ⟨_, _, hhas⟩ | ⟨r', hlacks⟩
    · rw [resolveWallet_of_hasWallet _ _ _ _ _ hhas] at h
      exact absurd h (by simp only [reduceCtorEq, not_false_eq_true])
    · rw [resolveWallet_of_lacksWallet _ _ _ _ hlacks, Except.error.injEq] at h
      rwa [← h]
  · exact resolveWallet_of_lacksWallet ledger program index r

/-- Unless it says that it holds nothing, compressed state decides alone: the accounts
    are not read, and with any other accounts the outcome is the same. -/
theorem resolveWallet_of_decided (address : Octets 32)
    (haddress : CompressedSettingsAt program index address)
    (h : ledger.compressed address ≠ .ok none) :
    (resolveWallet ledger program index).reads = [.compressed address] ∧
      ∀ accounts, resolveWallet ⟨accounts, ledger.compressed⟩ program index =
        resolveWallet ledger program index := by
  rw [compressedSettingsAt_iff] at haddress
  simp only [resolveWallet_eq, ← haddress]
  cases hcompressed : ledger.compressed address with
  | error reason => exact ⟨rfl, fun _ => rfl⟩
  | ok found =>
      cases found with
      | none => exact absurd hcompressed h
      | some account => exact ⟨rfl, fun _ => rfl⟩

end Resolve

/-- Whether a proof is asked for. -/
def Read.isProof : Read → Bool
  | .proof _ => true
  | _ => false

/-- How often a query asks for a proof. -/
def Query.proofRequests {α : Type} (q : Query α) : Nat :=
  q.reads.countP Read.isProof

/-- What asking for a proof adds to looking for a wallet. -/
structure AddsProof (ledger : Ledger) (program : Address) (attempts : UInt32)
    (outcome : Nat → Except String ExistenceProof) (index : WalletIndex) : Prop where
  -- What is refused without a proof is refused with one, for the same reason and after
  -- the same reads.
  refused : ∀ r, (resolveWallet ledger program index).result = .error r →
    resolveWalletWithProof ledger program attempts outcome index =
      resolveWallet ledger program index
  -- A wallet in an account of its own comes out as it is, without a proof.
  plain : ∀ w, (resolveWallet ledger program index).result = .ok w → w.place = .plain →
    w.proof = none ∧ resolveWalletWithProof ledger program attempts outcome index =
      resolveWallet ledger program index
  -- Neither of these asks for a proof.
  unasked : (resolveWallet ledger program index).proofRequests = 0
  -- For a wallet in compressed state a proof of its own leaf is asked for, at least once
  -- and within the attempts. All requests but the last one failed. If that one failed
  -- too, no attempt was left, and its reason is reported; otherwise its proof is added.
  compressed : ∀ w account, (resolveWallet ledger program index).result = .ok w →
    w.place = .compressed account → ∃ calls, 1 ≤ calls ∧ calls ≤ max attempts.toNat 1 ∧
      (resolveWalletWithProof ledger program attempts outcome index).reads =
        (resolveWallet ledger program index).reads ++
          List.replicate calls (.proof [account.hash]) ∧
      (∀ n, 1 ≤ n → n < calls → ∃ reason, outcome n = .error reason) ∧
      ((∃ proof, outcome calls = .ok proof ∧
          (resolveWalletWithProof ledger program attempts outcome index).result =
            .ok { w with proof := some proof }) ∨
        (∃ reason, outcome calls = .error reason ∧ calls = max attempts.toNat 1 ∧
          (resolveWalletWithProof ledger program attempts outcome index).result =
            .error (.noProof attempts reason)))
  -- The number that is reported is the number of requests, if there is any attempt.
  reported : 1 ≤ attempts.toNat → ∀ n reason,
    (resolveWalletWithProof ledger program attempts outcome index).result =
        .error (.noProof n reason) →
      n = attempts ∧
        (resolveWalletWithProof ledger program attempts outcome index).proofRequests = n.toNat

section WithProof

variable (ledger : Ledger) (program : Address) (attempts : UInt32)
  (outcome : Nat → Except String ExistenceProof) (index : WalletIndex)

theorem proofRequests_resolveWallet : (resolveWallet ledger program index).proofRequests = 0 := by
  rw [resolveWallet_eq]
  cases ledger.compressed (compressedSettingsAddress program index) with
  | error reason => rfl
  | ok found =>
      cases found with
      | none => rfl
      | some account => rfl

-- Only compressed settings have a proof to ask for.
theorem resolveWalletWithProof_of_error (r : Refusal)
    (h : (resolveWallet ledger program index).result = .error r) :
    resolveWalletWithProof ledger program attempts outcome index =
      resolveWallet ledger program index := by
  rw [resolveWalletWithProof, Query.bind_of_error _ _ _ h, ← h]

theorem resolveWalletWithProof_of_plain (w : ResolvedWallet)
    (h : (resolveWallet ledger program index).result = .ok w) (hplace : w.place = .plain) :
    resolveWalletWithProof ledger program attempts outcome index =
      resolveWallet ledger program index := by
  rw [resolveWalletWithProof, Query.bind_of_ok _ _ _ h]
  simp only [hplace, Query.result_pure, Query.reads_pure, List.append_nil, ← h]

/-- A proof is asked for once the settings are found, and again while it is not granted.
    -/
theorem resolveWalletWithProof_of_compressed (w : ResolvedWallet) (account : CompressedAccount)
    (h : (resolveWallet ledger program index).result = .ok w)
    (hplace : w.place = .compressed account) :
    resolveWalletWithProof ledger program attempts outcome index =
      ⟨(fun proof => { w with proof := some proof }) <$>
          (resolveProof attempts outcome account).result,
        (resolveWallet ledger program index).reads ++
          (resolveProof attempts outcome account).reads⟩ := by
  rw [resolveWalletWithProof, Query.bind_of_ok _ _ _ h]
  simp only [hplace]
  cases hresult : (resolveProof attempts outcome account).result with
  | error reason =>
      rw [Query.bind_of_error _ _ _ hresult]
      rfl
  | ok proof =>
      rw [Query.bind_of_ok _ _ _ hresult]
      simp only [Query.result_pure, Query.reads_pure, List.append_nil]
      rfl

/-- A proof that is asked for comes with the first request that does not fail. -/
theorem resolveProof_settled (account : CompressedAccount) :
    ∃ calls, 1 ≤ calls ∧ calls ≤ max attempts.toNat 1 ∧
      (resolveProof attempts outcome account).reads =
        List.replicate calls (.proof [account.hash]) ∧
      (∀ n, 1 ≤ n → n < calls → ∃ reason, outcome n = .error reason) ∧
      ((∃ proof, outcome calls = .ok proof ∧
          (resolveProof attempts outcome account).result = .ok proof) ∨
        (∃ reason, outcome calls = .error reason ∧ calls = max attempts.toNat 1 ∧
          (resolveProof attempts outcome account).result = .error (.noProof attempts reason))) := by
  have hsettled := retry_settled attempts outcome
  refine ⟨(retry attempts outcome).calls, hsettled.first, hsettled.limited, rfl,
    hsettled.failed, ?_⟩
  cases hresult : (retry attempts outcome).result with
  | error reason =>
      refine .inr ⟨reason, ?_, hsettled.exhausted reason hresult, ?_⟩
      · rw [← hsettled.last, hresult]
      · simp only [resolveProof, hresult]
  | ok proof =>
      refine .inl ⟨proof, ?_, ?_⟩
      · rw [← hsettled.last, hresult]
      · simp only [resolveProof, hresult]

-- A refusal about a proof is no refusal of a wallet, so there is one in compressed state.
theorem compressed_of_noProof (n : UInt32) (reason : String)
    (h : (resolveWalletWithProof ledger program attempts outcome index).result =
      .error (.noProof n reason)) :
    ∃ w account, (resolveWallet ledger program index).result = .ok w ∧
      w.place = .compressed account ∧
      (resolveProof attempts outcome account).result = .error (.noProof n reason) := by
  cases hwallet : (resolveWallet ledger program index).result with
  | error r =>
      rw [resolveWalletWithProof_of_error ledger program attempts outcome index r hwallet] at h
      cases (resolveWallet_eq_error ledger program index _).mp h
  | ok w =>
      cases hplace : w.place with
      | plain =>
          rw [resolveWalletWithProof_of_plain ledger program attempts outcome index w hwallet
            hplace, hwallet] at h
          exact absurd h (by simp only [reduceCtorEq, not_false_eq_true])
      | compressed account =>
          rw [resolveWalletWithProof_of_compressed ledger program attempts outcome index w account
            hwallet hplace, Outcome.map_eq_error] at h
          exact ⟨w, account, rfl, hplace, h⟩

/-- Whatever compressed state, the accounts and the service for proofs answer. -/
theorem resolveWalletWithProof_addsProof :
    AddsProof ledger program attempts outcome index where
  refused r h := resolveWalletWithProof_of_error ledger program attempts outcome index r h
  plain w h hplace :=
    ⟨((resolveWallet_eq_ok ledger program index w).mp h).2.1,
      resolveWalletWithProof_of_plain ledger program attempts outcome index w h hplace⟩
  unasked := proofRequests_resolveWallet ledger program index
  compressed w account h hplace := by
    rw [resolveWalletWithProof_of_compressed ledger program attempts outcome index w account h
      hplace]
    rcases resolveProof_settled attempts outcome account with
      ⟨calls, hfirst, hlimited, hreads, hfailed, hlast⟩
    refine ⟨calls, hfirst, hlimited, by rw [hreads], hfailed, ?_⟩
    rcases hlast with ⟨proof, hok, hresult⟩ | ⟨reason, herror, hcalls, hresult⟩
    · exact .inl ⟨proof, hok, by rw [hresult]; rfl⟩
    · exact .inr ⟨reason, herror, hcalls, by rw [hresult]; rfl⟩
  reported hattempts n reason h := by
    rcases compressed_of_noProof ledger program attempts outcome index n reason h with
      ⟨w, account, hwallet, hplace, hresult⟩
    rcases resolveProof_settled attempts outcome account with ⟨calls, _, _, hreads, _, hlast⟩
    rcases hlast with ⟨proof, _, hproof⟩ | ⟨last, _, hcalls, hlast⟩
    · rw [hproof] at hresult
      exact absurd hresult (by simp only [reduceCtorEq, not_false_eq_true])
    · rw [hlast, Except.error.injEq, Refusal.noProof.injEq] at hresult
      rw [resolveWalletWithProof_of_compressed ledger program attempts outcome index w account
        hwallet hplace, hreads, Query.proofRequests, List.countP_append, ← Query.proofRequests,
        proofRequests_resolveWallet, List.countP_replicate, ← hresult.1, hcalls]
      exact ⟨rfl, by simp only [Read.isProof, if_true]; omega⟩

end WithProof

end Cosigner
