import Cosigner.Ledger.Query
import Cosigner.Ledger.Retry
import Cosigner.Ledger.Tables
import Cosigner.Wallet.Arguments

/-!
# Wallets on Chain

The settings of a wallet are looked for in compressed state first and in an
account of their own after that. What is found first counts: compressed settings
that do not decode are an error, even if there is an account as well.

Wherever they are found, a wallet is known by the address of its settings
account, which follows from its number alone.

Compressed settings can only be used together with a proof that they exist.
Proofs lag behind, so asking for one is retried.

## Main definitions

* `Ledger`: The accounts and compressed accounts that can be read.
* `ResolvedWallet`: The settings of a wallet and where they were found.
* `resolveWallet`: Looks for the settings of a wallet.
* `resolveWalletWithProof`: The same with a proof for compressed settings.
-/

namespace Cosigner

/-- An account in compressed state. -/
structure CompressedAccount where
  /-- Its address. -/
  address : Octets 32
  /-- The hash of its leaf. -/
  hash : Octets 32
  /-- The tree that holds the leaf. -/
  tree : Address
  /-- The leaf in the tree. -/
  leaf : UInt32
  /-- The discriminator of its type. -/
  discriminator : Discriminator
  /-- Its data. -/
  data : Bytes
  deriving DecidableEq

/-- The compressed accounts that an indexer answers with. -/
abbrev CompressedStore := Octets 32 → Except String (Option CompressedAccount)

/-- What can be read. -/
structure Ledger where
  /-- Accounts. -/
  accounts : AccountStore
  /-- Compressed accounts. -/
  compressed : CompressedStore

/-- A proof that compressed accounts exist, with the roots it refers to. -/
structure ExistenceProof where
  /-- The proof, unless the place of every account says it. -/
  proof : Option ValidityProof
  /-- The roots. -/
  roots : List UInt16
  deriving DecidableEq

/-- Where settings were found. -/
inductive SettingsPlace where
  /-- In an account of their own. -/
  | plain
  /-- In compressed state. -/
  | compressed (account : CompressedAccount)
  deriving DecidableEq

/-- The settings of a wallet and where they were found. -/
structure ResolvedWallet where
  /-- The address of the settings account, which names the wallet. -/
  address : Address
  /-- The settings. -/
  settings : Settings
  /-- Where they were found. -/
  place : SettingsPlace
  /-- A proof that they exist, if one was asked for. -/
  proof : Option ExistenceProof
  deriving DecidableEq

/-- Looks for the settings of a wallet in an account of their own. -/
def resolvePlain (accounts : AccountStore) (program : Address) (index : WalletIndex) :
    Query ResolvedWallet :=
  let address := settingsAddress program index
  .ask (.account address) <|
    match accounts address with
    | .error reason => .error (.connection reason)
    | .ok none => .error (.missingSettings index)
    | .ok (some data) =>
      match Settings.ofAccountData data with
      | .error e => .error (.badData e)
      | .ok settings => .ok ⟨address, settings, .plain, none⟩

/-- Looks for the compressed account of a wallet. -/
def findCompressed (compressed : CompressedStore) (program : Address) (index : WalletIndex) :
    Query (Option CompressedAccount) :=
  let address := compressedSettingsAddress program index
  .ask (.compressed address) <|
    match compressed address with
    | .error reason => .error (.connection reason)
    | .ok found => .ok found

/-- A wallet with compressed settings. -/
def ofCompressed (program : Address) (index : WalletIndex) (account : CompressedAccount) :
    Except Refusal ResolvedWallet :=
  match Settings.ofCompressedData account.data with
  | .error e => .error (.badData e)
  | .ok settings => .ok ⟨settingsAddress program index, settings, .compressed account, none⟩

/-- Looks for the settings of a wallet. -/
def resolveWallet (ledger : Ledger) (program : Address) (index : WalletIndex) :
    Query ResolvedWallet := do
  match ← findCompressed ledger.compressed program index with
  | some account => .ofExcept (ofCompressed program index account)
  | none => resolvePlain ledger.accounts program index

/-- Asks for a proof that one compressed account exists; `outcome n` is the
    answer to the `n`-th request. -/
def resolveProof (attempts : UInt32) (outcome : Nat → Except String ExistenceProof)
    (account : CompressedAccount) : Query ExistenceProof :=
  let tried := retry attempts outcome
  { result := match tried.result with
      | .ok proof => .ok proof
      | .error reason => .error (.noProof attempts reason)
    reads := List.replicate tried.calls (.proof [account.hash]) }

/-- Looks for the settings of a wallet, and asks for a proof if they are
    compressed. -/
def resolveWalletWithProof (ledger : Ledger) (program : Address) (attempts : UInt32)
    (outcome : Nat → Except String ExistenceProof) (index : WalletIndex) :
    Query ResolvedWallet := do
  let wallet ← resolveWallet ledger program index
  match wallet.place with
  | .plain => return wallet
  | .compressed account =>
    let proof ← resolveProof attempts outcome account
    return { wallet with proof := some proof }

end Cosigner
