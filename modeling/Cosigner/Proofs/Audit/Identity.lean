import Cosigner.Proofs.Audit.Precedence
import Cosigner.Proofs.Ledger.Wallets

/-!
# Whose Approval Is Asked For

An obligation names the wallet whose signers have to have authorized it. A request
says in one of two ways which wallet that is: a request about compressed settings
carries the number of the wallet, and any other request about a wallet hands over
its settings account first. To take the wrong one of the two would be to take one
wallet's approval for another wallet's funds.

The number alone could name a wallet that does not exist. So its settings have to
be found before there is an obligation, in either place, and have to decode there.
For a settings account nothing is looked up, and nothing is said about what is
in it.

Which of the two it is depends on the operation that the data of an instruction
opens with, and on nothing else. In particular it does not depend on the three
forms in which a request says what is authorized.

## Main definitions

* `Operation.onAccount`, `Operation.onCompressed`: The operations on a wallet.
* `Request.settings?`: Where a request says that compressed settings are.
* `Obligation.IsAbout`: The wallet of an obligation is the one that is named.
* `IdentifiesWallets`: Wallets are found and named as they should be.

## Theorems

* `RouteContext.walletOf_eq_ok`: The wallet that a request names.
* `RouteContext.process_isAbout`: So is the wallet of its obligation.
* `identifiesWallets`: Wallets are found and named as they should be.
-/

namespace Cosigner

namespace Operation

/-- The operations on a wallet with a settings account, which is handed over first. -/
def onAccount : List Operation :=
  [.changeConfig, .nativeTransferIntent, .tokenTransferIntent, .transactionBufferCreate,
    .transactionExecuteSync]

/-- The operations on a wallet that is given by its number. -/
def onCompressed : List Operation :=
  [.changeConfigCompressed, .nativeTransferIntentCompressed, .tokenTransferIntentCompressed,
    .transactionBufferCreateCompressed, .transactionExecuteSyncCompressed]

end Operation

namespace Request

/-- Where a request says that compressed settings are, if it is about such. -/
def settings? : Request → Option CompressedRef
  | .changeConfigCompressed a => some a.settings
  | .transferIntentCompressed a => some a.settings
  | .bufferCreateCompressed a => some a.settings
  | .executeSyncCompressed a => some a.settings
  | _ => none

section Demanded

variable (op : Operation) (arguments : Bytes) (r : Request) (d : Demand)
  (h : ofArguments op arguments = .ok r) (hdemand : r.demand = .ok (some d))

include h hdemand

-- Operations come in three groups: by an account, by a number, and without a wallet.
theorem wallet_of_onAccount (hop : op ∈ Operation.onAccount) : d.wallet = .account := by
  simp only [Operation.onAccount, List.mem_cons, List.not_mem_nil, or_false] at hop
  rcases hop with rfl | rfl | rfl | rfl | rfl
  all_goals
    rcases (Outcome.map_eq_ok _ _ _).mp h with ⟨a, _, rfl⟩
    cases hdemand
    rfl

theorem wallet_of_onCompressed (hop : op ∈ Operation.onCompressed) :
    ∃ ref, r.settings? = some ref ∧ d.wallet = .index ref.index := by
  simp only [Operation.onCompressed, List.mem_cons, List.not_mem_nil, or_false] at hop
  rcases hop with rfl | rfl | rfl | rfl | rfl
  all_goals
    rcases (Outcome.map_eq_ok _ _ _).mp h with ⟨a, _, rfl⟩
    cases hdemand
    exact ⟨a.settings, rfl, rfl⟩

theorem wallet_of_neither (haccount : op ∉ Operation.onAccount)
    (hcompressed : op ∉ Operation.onCompressed) : d.wallet = .none := by
  cases op
  case changeConfig | nativeTransferIntent | tokenTransferIntent | transactionBufferCreate
    | transactionExecuteSync => exact absurd (by decide) haccount
  case changeConfigCompressed | nativeTransferIntentCompressed | tokenTransferIntentCompressed
    | transactionBufferCreateCompressed | transactionExecuteSyncCompressed =>
    exact absurd (by decide) hcompressed
  case createUserAccounts | editTransactionManagerUrl =>
    rcases (Outcome.map_eq_ok _ _ _).mp h with ⟨a, _, rfl⟩
    cases hdemand
    rfl
  -- The others are exempt or not routed, and have no demand.
  all_goals
    cases h
    cases hdemand

end Demanded

end Request

theorem settingsAccount_eq_ok (ix : Instruction) (key : Address) :
    settingsAccount ix = .ok key ↔ ∃ ref, ix.accounts[0]? = some ref ∧ ref.key = key := by
  unfold settingsAccount
  cases ix.accounts with
  | nil => simp only [reduceCtorEq, List.getElem?_nil, false_and, exists_false]
  | cons ref rest =>
      simp only [Except.ok.injEq, List.getElem?_cons_zero, Option.some.injEq, exists_eq_left']

namespace RouteContext

/-- The settings address of the wallet that an instruction names. A wallet that is named by
    its number is there, and a settings account is whatever stands first. -/
def Names (c : RouteContext) (ix : Instruction) : WalletRef → Option Address → Prop
  | .none, settings => settings = none
  | .account, settings => ∃ ref, ix.accounts[0]? = some ref ∧ settings = some ref.key
  | .index index, settings =>
    ∃ address, settings = some address ∧ SettingsAt c.program index address ∧
      ∃ place found, c.ledger.HasWallet c.program index place found

variable (c : RouteContext) (ix : Instruction)

/-- The wallet of an instruction is the one that its operation names. -/
theorem walletOf_eq_ok (wallet : WalletRef) (settings : Option Address) :
    (c.walletOf ix wallet).result = .ok settings ↔ c.Names ix wallet settings := by
  cases wallet with
  | none =>
      simp only [walletOf, Query.result_pure, Except.ok.injEq, Names]
      exact eq_comm
  | account =>
      simp only [walletOf, Query.result_ofExcept, Outcome.map_eq_ok, settingsAccount_eq_ok, Names]
      constructor
      · intro h
        rcases h with ⟨key, ⟨ref, hfirst, rfl⟩, rfl⟩
        exact ⟨ref, hfirst, rfl⟩
      · intro h
        rcases h with ⟨ref, hfirst, rfl⟩
        exact ⟨ref.key, ⟨ref, hfirst, rfl⟩, rfl⟩
  | index index =>
      simp only [walletOf, Query.result_bind_eq_ok, Query.result_pure, Except.ok.injEq, Names]
      constructor
      · intro h
        rcases h with ⟨w, hw, rfl⟩
        rcases (resolveWallet_eq_ok c.ledger c.program index w).mp hw with ⟨haddress, _, hhas⟩
        exact ⟨w.address, rfl, haddress, w.place, w.settings, hhas⟩
      · intro h
        rcases h with ⟨address, rfl, haddress, place, found, hhas⟩
        have hfound : (resolveWallet c.ledger c.program index).result =
            .ok ⟨address, found, place, none⟩ :=
          (resolveWallet_eq_ok c.ledger c.program index _).mpr ⟨haddress, rfl, hhas⟩
        exact ⟨_, hfound, rfl⟩

-- The instructions that are authorized have no part in which wallet it is.
theorem walletOf_of_subject (wallet : WalletRef) (content : Content) (settings : Option Address)
    (found : List Instruction)
    (h : (c.subject ix wallet content).result = .ok (settings, found)) :
    (c.walletOf ix wallet).result = .ok settings := by
  cases content
  all_goals
    simp only [subject, Query.result_bind_eq_ok, Query.result_pure, Except.ok.injEq,
      Prod.mk.injEq] at h
  case itself =>
    rcases h with ⟨_, hwallet, rfl, _⟩
    exact hwallet
  case buffered create =>
    rcases h with ⟨_, _, _, hwallet, _, _, rfl, _⟩
    exact hwallet
  case sync message =>
    rcases h with ⟨_, _, _, hwallet, rfl, _⟩
    exact hwallet

end RouteContext

/-- The wallet that an obligation is about is the one that its instruction names. -/
structure Obligation.IsAbout (program : Address) (ledger : Ledger) (ix : Instruction)
    (o : Obligation) : Prop where
  -- An operation on an account names the wallet by its first account.
  account : ∀ op ∈ Operation.onAccount, ix.Opens op →
    ∃ ref, ix.accounts[0]? = some ref ∧ o.settings = some ref.key
  -- An operation on compressed settings names it by the number in its own arguments, and
  -- a wallet with this number is there.
  compressed : ∀ op ∈ Operation.onCompressed, ix.Opens op →
    ∃ request ref, Request.parse ix.data = .ok request ∧ request.settings? = some ref ∧
      ∃ address, o.settings = some address ∧ SettingsAt program ref.index address ∧
        ∃ place settings, ledger.HasWallet program ref.index place settings
  -- Any other operation is about none.
  neither : ∀ op, op ∉ Operation.onAccount → op ∉ Operation.onCompressed → ix.Opens op →
    o.settings = none

/-- The wallet of an obligation, by the operation that its instruction opens with. -/
theorem RouteContext.process_isAbout (c : RouteContext) (ix : Instruction) (o : Obligation)
    (h : (c.process ix).result = .ok (some o)) : o.IsAbout c.program c.ledger ix := by
  rcases (c.process_eq_some ix o).mp h with ⟨request, d, hparse, hdemand, hmeet⟩
  have hnames : c.Names ix d.wallet o.settings := by
    rw [← c.walletOf_eq_ok]
    exact c.walletOf_of_subject ix _ _ _ _ ((c.meet_eq_ok ix d o).mp hmeet).1
  have hread : ∀ op, ix.Opens op → ∃ arguments, Request.ofArguments op arguments = .ok request := by
    intro op hopens
    rcases (ix.opens_iff op).mp hopens with ⟨arguments, hdata⟩
    exact ⟨arguments, by rw [← hparse, hdata, Request.parse_withArguments]⟩
  constructor
  case account =>
    intro op hop hopens
    rcases hread op hopens with ⟨arguments, hrequest⟩
    rw [Request.wallet_of_onAccount op arguments request d hrequest hdemand hop] at hnames
    exact hnames
  case compressed =>
    intro op hop hopens
    rcases hread op hopens with ⟨arguments, hrequest⟩
    rcases Request.wallet_of_onCompressed op arguments request d hrequest hdemand hop with
      ⟨ref, hsettings, hwallet⟩
    rw [hwallet] at hnames
    exact ⟨request, ref, hparse, hsettings, hnames⟩
  case neither =>
    intro op haccount hcompressed hopens
    rcases hread op hopens with ⟨arguments, hrequest⟩
    rw [Request.wallet_of_neither op arguments request d hrequest hdemand haccount hcompressed]
      at hnames
    exact hnames

/-- Finding wallets by their number, and naming them in obligations. -/
structure IdentifiesWallets (program : Address) (ledger : Ledger) : Prop where
  -- What is found is there: in compressed state with settings that decode, or else, where
  -- compressed state holds nothing, in an account with such settings. It goes by the
  -- address that is derived from its number, wherever it is.
  found : ∀ index w, (resolveWallet ledger program index).result = .ok w ↔
    SettingsAt program index w.address ∧ w.proof = none ∧
      ledger.HasWallet program index w.place w.settings
  -- What is not found is lacking for one of five reasons, and the refusal is that of
  -- the reason.
  refused : ∀ index r, (resolveWallet ledger program index).result = .error r ↔
    ledger.LacksWallet program index r
  -- The account is looked at only if compressed state holds nothing.
  decided : ∀ index address, CompressedSettingsAt program index address →
    ledger.compressed address ≠ .ok none →
    (resolveWallet ledger program index).reads = [.compressed address] ∧
      ∀ accounts, resolveWallet ⟨accounts, ledger.compressed⟩ program index =
        resolveWallet ledger program index
  -- If a transaction is routed, each of its obligations is about the wallet that its
  -- instruction names.
  named : ∀ feePayer ixs os, (route program ledger ixs feePayer).result = .ok os →
    List.Forall₂ (fun ix o => Obligation.IsAbout program ledger ix o)
      (ixs.filter fun ix => ix.program = program ∧ ∀ op ∈ Operation.exempt, ¬ ix.Opens op) os

/-- Whatever the program and whatever can be read. -/
theorem identifiesWallets (program : Address) (ledger : Ledger) :
    IdentifiesWallets program ledger where
  found index w := resolveWallet_eq_ok ledger program index w
  refused index r := resolveWallet_eq_error ledger program index r
  decided index address haddress h :=
    resolveWallet_of_decided ledger program index address haddress h
  named feePayer ixs os h := by
    rcases (route_eq_ok program ledger ixs feePayer os).mp h with ⟨_, messages, _, hos⟩
    rw [obliging_eq_filter] at hos
    exact hos.imp fun ix o hprocess =>
      RouteContext.process_isAbout ⟨program, ledger, feePayer, messages⟩ ix o hprocess

-- Two transfers, one from a wallet that is named by its number and one from a wallet that
-- is named by its account. Both hand over the same account. No account is read.
example :
    let key (n : UInt8) : Address := Octets.replicate 32 n
    let data := Settings.layout.codec.encode ⟨7, [], 1, 0, 0⟩
    let ledger : Ledger := ⟨fun _ => .error "unreachable",
      fun _ => .ok (some ⟨key 0, key 0, key 0, 0, Octets.replicate 8 0, data⟩)⟩
    let byNumber : Instruction := ⟨key 9, [⟨key 3, .plain⟩],
      Operation.nativeTransferIntentCompressed.encode .transferIntentCompressed
        ⟨⟨7, 0, 0, 0, 0⟩, ⟨5, none⟩, none⟩⟩
    let byAccount : Instruction := ⟨key 9, [⟨key 3, .plain⟩],
      Operation.nativeTransferIntent.encode .transferIntent ⟨5, none⟩⟩
    (route (key 9) ledger [byNumber, byAccount] (key 4)).result.map (·.map (·.settings)) =
      .ok [some (settingsAddress (key 9) 7), some (key 3)] := by
  decide +kernel

end Cosigner
