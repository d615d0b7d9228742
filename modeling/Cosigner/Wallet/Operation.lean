import Cosigner.Wallet.Layout

/-!
# Operations and Discriminators

Instruction data of the wallet program opens with eight bytes that name an
operation, and the operation's arguments follow. Account data opens with eight
bytes that name the account's type. Both kinds of discriminator are fixed by the
program.

## Main definitions

* `Operation`: Everything the wallet program can be asked to do.
* `Operation.split`: Instruction data as an operation and argument bytes.
* `Operation.withArguments`: Instruction data from an operation and arguments.
* `AccountType`: The types of accounts the wallet program keeps.
* `AccountType.strip`: Account data without its discriminator.
-/

namespace Cosigner

/-- Everything the wallet program can be asked to do. -/
inductive Operation where
  /-- Change the members or the threshold of a wallet. -/
  | changeConfig
  /-- The same for compressed settings. -/
  | changeConfigCompressed
  /-- Compress the settings of a wallet. -/
  | compressSettingsAccount
  /-- Register a domain. -/
  | createDomainConfig
  /-- Create user accounts. -/
  | createUserAccounts
  /-- Create a wallet. -/
  | createWallet
  /-- Decompress the settings of a wallet. -/
  | decompressSettingsAccount
  /-- Change where a user's co-signer is found. -/
  | editTransactionManagerUrl
  /-- Transfer the native currency. -/
  | nativeTransferIntent
  /-- The same for compressed settings. -/
  | nativeTransferIntentCompressed
  /-- Transfer tokens. -/
  | tokenTransferIntent
  /-- The same for compressed settings. -/
  | tokenTransferIntentCompressed
  /-- Close a transaction buffer. -/
  | transactionBufferClose
  /-- The same for compressed settings. -/
  | transactionBufferCloseCompressed
  /-- Create a transaction buffer. -/
  | transactionBufferCreate
  /-- The same for compressed settings. -/
  | transactionBufferCreateCompressed
  /-- Release a transaction buffer for execution. -/
  | transactionBufferExecute
  /-- The same for compressed settings. -/
  | transactionBufferExecuteCompressed
  /-- Append to a transaction buffer. -/
  | transactionBufferExtend
  /-- The same for compressed settings. -/
  | transactionBufferExtendCompressed
  /-- Vote on a transaction buffer. -/
  | transactionBufferVote
  /-- The same for compressed settings. -/
  | transactionBufferVoteCompressed
  /-- Execute a buffered transaction. -/
  | transactionExecute
  /-- The same for compressed settings. -/
  | transactionExecuteCompressed
  /-- Execute a transaction carried along. -/
  | transactionExecuteSync
  /-- The same for compressed settings. -/
  | transactionExecuteSyncCompressed
  deriving DecidableEq, Repr

/-- Eight bytes that name an operation or a type of account. -/
abbrev Discriminator := Octets 8

namespace Operation

/-- Every operation with its name and the number its discriminator spells, in
    the order of the names. -/
def table : List (Operation × String × Nat) := [
  (.changeConfig, "ChangeConfig", 0x189e72735ed2f4e9),
  (.changeConfigCompressed, "ChangeConfigCompressed", 0x21b99f9ab5fb9d3a),
  (.compressSettingsAccount, "CompressSettingsAccount", 0x6b9d3afd04a32e91),
  (.createDomainConfig, "CreateDomainConfig", 0xc551bf02a48cb85a),
  (.createUserAccounts, "CreateUserAccounts", 0xbf0debe02d028a10),
  (.createWallet, "CreateWallet", 0x52ac8012a1cf583f),
  (.decompressSettingsAccount, "DecompressSettingsAccount", 0xed57e854dab0de86),
  (.editTransactionManagerUrl, "EditTransactionManagerUrl", 0x215dddbd7bfa5b08),
  (.nativeTransferIntent, "NativeTransferIntent", 0x399cd59d58ca0297),
  (.nativeTransferIntentCompressed, "NativeTransferIntentCompressed", 0xd7a8c2466113517e),
  (.tokenTransferIntent, "TokenTransferIntent", 0x335b609b84e8b330),
  (.tokenTransferIntentCompressed, "TokenTransferIntentCompressed", 0x2a306b93e4c943ad),
  (.transactionBufferClose, "TransactionBufferClose", 0x11b6d0e48818b266),
  (.transactionBufferCloseCompressed, "TransactionBufferCloseCompressed", 0x52411931d01cbf54),
  (.transactionBufferCreate, "TransactionBufferCreate", 0xf5c9716c253f1d59),
  (.transactionBufferCreateCompressed, "TransactionBufferCreateCompressed", 0x60a36ff047c07d40),
  (.transactionBufferExecute, "TransactionBufferExecute", 0x3049221381638049),
  (.transactionBufferExecuteCompressed, "TransactionBufferExecuteCompressed", 0xd9117cc5036e8b07),
  (.transactionBufferExtend, "TransactionBufferExtend", 0xe69d433805eef592),
  (.transactionBufferExtendCompressed, "TransactionBufferExtendCompressed", 0x15706061c466cfcb),
  (.transactionBufferVote, "TransactionBufferVote", 0xcb324fbb5e35527a),
  (.transactionBufferVoteCompressed, "TransactionBufferVoteCompressed", 0x5652bb66673487b7),
  (.transactionExecute, "TransactionExecute", 0x5dab4e86fc54babd),
  (.transactionExecuteCompressed, "TransactionExecuteCompressed", 0x3c630b2ab2d81c9e),
  (.transactionExecuteSync, "TransactionExecuteSync", 0x958acc20b53d99e3),
  (.transactionExecuteSyncCompressed, "TransactionExecuteSyncCompressed", 0xfb9a959d7d843cb7)]

/-- Every operation, in the order of the names. -/
def all : List Operation := table.map (·.1)

/-- The name of an operation. -/
def name (op : Operation) : String :=
  ((table.find? (·.1 = op)).map (·.2.1)).getD ""

/-- The discriminator of an operation. -/
def discriminator (op : Operation) : Discriminator :=
  .ofNatBE 8 (((table.find? (·.1 = op)).map (·.2.2)).getD 0)

/-- The operation that a discriminator names. -/
def ofDiscriminator? (d : Discriminator) : Option Operation :=
  all.find? (·.discriminator = d)

/-- The operation of a name. -/
def ofName? (s : String) : Option Operation :=
  all.find? (·.name = s)

/-- Instruction data as a discriminator and argument bytes. -/
def split (data : Bytes) : Except LayoutError (Discriminator × Bytes) :=
  match Octets.ofBytes? 8 (data.take 8) with
  | some d => .ok (d, data.drop 8)
  | none => .error (.noDiscriminator data.length)

/-- Instruction data from an operation and argument bytes. -/
def withArguments (op : Operation) (arguments : Bytes) : Bytes :=
  op.discriminator.toBytes ++ arguments

/-- Instruction data from an operation and the value of its arguments. -/
def encode {α : Type} (op : Operation) (l : Layout α) (value : α) : Bytes :=
  op.withArguments (l.codec.encode value)

end Operation

/-- The types of accounts the wallet program keeps. -/
inductive AccountType where
  /-- The settings of a wallet. -/
  | settings
  /-- A transaction buffer. -/
  | transactionBuffer
  /-- A registered domain. -/
  | domainConfig
  /-- The counter that numbers wallets. -/
  | globalCounter
  deriving DecidableEq, Repr

namespace AccountType

/-- The discriminator of a type of account. -/
def discriminator : AccountType → Discriminator
  | .settings => .ofNatBE 8 0xdfb3a3beb1e043ad
  | .transactionBuffer => .ofNatBE 8 0x5a2423db5de16e60
  | .domainConfig => .ofNatBE 8 0xc9e8d4e53bf16ac5
  | .globalCounter => .ofNatBE 8 0x2aceb03aaf8182e9

/-- Account data without its discriminator, if it starts with it. -/
def strip (t : AccountType) (data : Bytes) : Except LayoutError Bytes :=
  if data.take 8 = t.discriminator.toBytes then .ok (data.drop 8)
  else .error .wrongAccount

end AccountType

end Cosigner
