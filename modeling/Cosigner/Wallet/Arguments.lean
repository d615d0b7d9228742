import Cosigner.Message.Wire
import Cosigner.Wallet.Settings

/-!
# Arguments of Operations

The arguments that the co-signer has to understand, with their layouts. An
operation on compressed settings takes the arguments of the plain one, preceded
by a reference to the settings and followed by a proof that they exist.

Where an operation is authorized by passkeys, its arguments say which of the
transaction's signed messages count, and for which slot each was signed.

Each list in these layouts has its length in four bytes.

## Main definitions

* `MessageUse`: A reference to a signed message.
* `CompressedRef`, `ValidityProof`: Where compressed settings are, and that they are.
* `ChangeConfig`, `TransferIntent`, `BufferCreate`, `ExecuteSync`,
    `CreateUserAccounts`, `EditManagerUrl`: Arguments.
* `OnCompressed`: Arguments for compressed settings.
-/

namespace Cosigner

/-- A reference to a signed message of the same transaction. -/
structure MessageUse where
  /-- Its place among all signed messages. -/
  message : UInt8
  /-- The slot whose hash the signer was shown. -/
  slot : UInt64
  deriving DecidableEq

/-- The layout of a reference to a signed message. -/
def MessageUse.codec : Codec MessageUse :=
  (Codec.u8.pair Codec.u64).imap (fun (message, slot) => ⟨message, slot⟩)
    fun u => (u.message, u.slot)

/-- Where compressed settings are found. -/
structure CompressedRef where
  /-- The number of the wallet. -/
  index : WalletIndex
  /-- The tree of the state. -/
  merkleTree : UInt8
  /-- The queue of the tree. -/
  queue : UInt8
  /-- The leaf in the tree. -/
  leaf : UInt32
  /-- The root that a proof refers to. -/
  root : UInt16
  deriving DecidableEq

/-- The layout of a reference to compressed settings. -/
def CompressedRef.codec : Codec CompressedRef :=
  (Codec.u128.pair (Codec.u8.pair (Codec.u8.pair (Codec.u32.pair Codec.u16)))).imap
    (fun (index, merkleTree, queue, leaf, root) => ⟨index, merkleTree, queue, leaf, root⟩)
    fun r => (r.index, r.merkleTree, r.queue, r.leaf, r.root)

/-- A proof that compressed accounts exist. -/
structure ValidityProof where
  /-- First element. -/
  a : Octets 32
  /-- Second element. -/
  b : Octets 64
  /-- Third element. -/
  c : Octets 32
  deriving DecidableEq

/-- The layout of a proof. -/
def ValidityProof.codec : Codec ValidityProof :=
  ((Codec.octets 32).pair ((Codec.octets 64).pair (Codec.octets 32))).imap
    (fun (a, b, c) => ⟨a, b, c⟩) fun p => (p.a, p.b, p.c)

/-- One change of a wallet's settings. -/
inductive ConfigAction where
  /-- Members come in. -/
  | addMembers (members : List Member)
  /-- Members leave. -/
  | removeMembers (keys : List MemberKey)
  /-- Members get other permissions. -/
  | editPermissions (members : List Member)
  /-- Another number of members has to agree. -/
  | setThreshold (threshold : UInt8)
  deriving DecidableEq

namespace ConfigAction

/-- The bytes of a change: its tag, then its contents. -/
def encode : ConfigAction → Bytes
  | .addMembers members => 0 :: (Codec.listOf 4 Member.codec).encode members
  | .removeMembers keys => 1 :: (Codec.listOf 4 MemberKey.codec).encode keys
  | .editPermissions members => 2 :: (Codec.listOf 4 Member.codec).encode members
  | .setThreshold threshold => 3 :: Codec.u8.encode threshold

/-- Reads the contents of the change that has the given tag. -/
def decodeTagged (tag : UInt8) (bs : Bytes) : Except Codec.Fault (ConfigAction × Bytes) := do
  if tag = 0 then
    let (members, rest) ← (Codec.listOf 4 Member.codec).decode bs
    return (.addMembers members, rest)
  else if tag = 1 then
    let (keys, rest) ← (Codec.listOf 4 MemberKey.codec).decode bs
    return (.removeMembers keys, rest)
  else if tag = 2 then
    let (members, rest) ← (Codec.listOf 4 Member.codec).decode bs
    return (.editPermissions members, rest)
  else if tag = 3 then
    let (threshold, rest) ← Codec.u8.decode bs
    return (.setThreshold threshold, rest)
  else throw (.badTag tag)

/-- The layout of a change. -/
def codec : Codec ConfigAction where
  encode := encode
  decode bs := do
    let (tag, rest) ← Codec.u8.decode bs
    decodeTagged tag rest

end ConfigAction

/-- Arguments for changing settings. -/
structure ChangeConfig where
  /-- The changes, in order. -/
  actions : List ConfigAction
  /-- The signed messages that authorize them. -/
  uses : List MessageUse
  deriving DecidableEq

/-- The layout of a change of settings. -/
def ChangeConfig.codec : Codec ChangeConfig :=
  ((Codec.listOf 4 ConfigAction.codec).pair (Codec.listOf 4 MessageUse.codec)).imap
    (fun (actions, uses) => ⟨actions, uses⟩) fun c => (c.actions, c.uses)

/-- Arguments for a transfer. -/
structure TransferIntent where
  /-- How much is transferred. -/
  amount : UInt64
  /-- The signed message that authorizes it, if a passkey does. -/
  use : Option MessageUse
  deriving DecidableEq

/-- The layout of a transfer. -/
def TransferIntent.codec : Codec TransferIntent :=
  (Codec.u64.pair (Codec.option MessageUse.codec)).imap (fun (amount, use) => ⟨amount, use⟩)
    fun t => (t.amount, t.use)

/-- Arguments for creating a transaction buffer. -/
structure BufferCreate where
  /-- The number of the buffer. -/
  bufferIndex : UInt8
  /-- Whether creating it also authorizes its execution. -/
  preauthorize : Bool
  /-- The SHA-256 digest of the complete message. -/
  finalHash : Octets 32
  /-- The size of the complete message. -/
  finalSize : UInt16
  /-- The bytes of the message. -/
  buffer : Bytes
  /-- The signed message that authorizes it, if a passkey does. -/
  use : Option MessageUse
  deriving DecidableEq

/-- The layout of the creation of a buffer. -/
def BufferCreate.codec : Codec BufferCreate :=
  (Codec.u8.pair (Codec.flag.pair ((Codec.octets 32).pair (Codec.u16.pair
    ((Codec.blob 4).pair (Codec.option MessageUse.codec)))))).imap
    (fun (bufferIndex, preauthorize, finalHash, finalSize, buffer, use) =>
      ⟨bufferIndex, preauthorize, finalHash, finalSize, buffer, use⟩)
    fun b => (b.bufferIndex, b.preauthorize, b.finalHash, b.finalSize, b.buffer, b.use)

/-- An instruction in program data, where lists have long lengths. -/
def IndexedInstruction.wideCodec : Codec IndexedInstruction :=
  (Codec.u8.pair ((Codec.blob 4).pair (Codec.blob 4))).imap
    (fun (program, accounts, data) => ⟨program, accounts, data⟩)
    fun ix => (ix.program, ix.accounts, ix.data)

/-- A message that is executed at once. It carries no keys: they are accounts of
    the instruction that carries the message. -/
structure SyncMessage where
  /-- The division of the keys by role. -/
  header : Header
  /-- The number of keys. -/
  keyCount : UInt8
  /-- The instructions. -/
  instructions : List IndexedInstruction
  /-- The number of lookup tables. -/
  tableCount : UInt8
  deriving DecidableEq

/-- The layout of a message that is executed at once. -/
def SyncMessage.codec : Codec SyncMessage :=
  (Header.codec.pair (Codec.u8.pair ((Codec.listOf 4 IndexedInstruction.wideCodec).pair
    Codec.u8))).imap
    (fun (header, keyCount, instructions, tableCount) =>
      ⟨header, keyCount, instructions, tableCount⟩)
    fun m => (m.header, m.keyCount, m.instructions, m.tableCount)

/-- Arguments for executing a message at once. -/
structure ExecuteSync where
  /-- The message. -/
  message : SyncMessage
  /-- The signed messages that authorize it. -/
  uses : List MessageUse
  deriving DecidableEq

/-- The layout of an execution. -/
def ExecuteSync.codec : Codec ExecuteSync :=
  (SyncMessage.codec.pair (Codec.listOf 4 MessageUse.codec)).imap
    (fun (message, uses) => ⟨message, uses⟩) fun e => (e.message, e.uses)

/-- Arguments for one new user account. -/
structure UserAccount where
  /-- The user's key. -/
  member : MemberKey
  /-- Whether the user stays a member for good. -/
  permanent : Bool
  /-- Where the user's co-signer is found. -/
  managerUrl : Option String
  deriving DecidableEq

/-- The layout of a new user account. -/
def UserAccount.codec : Codec UserAccount :=
  (MemberKey.codec.pair (Codec.flag.pair (Codec.option Codec.text))).imap
    (fun (member, permanent, managerUrl) => ⟨member, permanent, managerUrl⟩)
    fun u => (u.member, u.permanent, u.managerUrl)

/-- Arguments for creating user accounts. -/
structure CreateUserAccounts where
  /-- The accounts. -/
  users : List UserAccount
  /-- The signed message that authorizes them, if a passkey does. -/
  use : Option MessageUse
  deriving DecidableEq

/-- The layout of the creation of user accounts. -/
def CreateUserAccounts.codec : Codec CreateUserAccounts :=
  ((Codec.listOf 4 UserAccount.codec).pair (Codec.option MessageUse.codec)).imap
    (fun (users, use) => ⟨users, use⟩) fun c => (c.users, c.use)

/-- Arguments for changing where a user's co-signer is found. -/
structure EditManagerUrl where
  /-- The new place. -/
  url : String
  deriving DecidableEq

/-- The layout of a change of place. -/
def EditManagerUrl.codec : Codec EditManagerUrl :=
  Codec.text.imap (fun url => ⟨url⟩) (·.url)

/-- Arguments for an operation on compressed settings. -/
structure OnCompressed (α : Type) where
  /-- Where the settings are. -/
  settings : CompressedRef
  /-- The arguments of the operation itself. -/
  arguments : α
  /-- That the settings exist, unless their place says it. -/
  proof : Option ValidityProof
  deriving DecidableEq

/-- The layout of arguments for compressed settings. -/
def OnCompressed.codec {α : Type} (c : Codec α) : Codec (OnCompressed α) :=
  (CompressedRef.codec.pair (c.pair (Codec.option ValidityProof.codec))).imap
    (fun (settings, arguments, proof) => ⟨settings, arguments, proof⟩)
    fun a => (a.settings, a.arguments, a.proof)

namespace Layout

/-- Changes of settings. -/
def changeConfig : Layout ChangeConfig :=
  ⟨"ChangeConfigArgs", ChangeConfig.codec⟩

/-- Changes of compressed settings. -/
def changeConfigCompressed : Layout (OnCompressed ChangeConfig) :=
  ⟨"ChangeConfigCompressedArgs", OnCompressed.codec ChangeConfig.codec⟩

/-- Transfers. -/
def transferIntent : Layout TransferIntent :=
  ⟨"TransferIntentArgs", TransferIntent.codec⟩

/-- Transfers from a wallet with compressed settings. -/
def transferIntentCompressed : Layout (OnCompressed TransferIntent) :=
  ⟨"TransferIntentCompressedArgs", OnCompressed.codec TransferIntent.codec⟩

/-- Creations of buffers. -/
def bufferCreate : Layout BufferCreate :=
  ⟨"TransactionBufferCreateArgs", BufferCreate.codec⟩

/-- Creations of buffers for a wallet with compressed settings. -/
def bufferCreateCompressed : Layout (OnCompressed BufferCreate) :=
  ⟨"TransactionBufferCreateCompressedArgs", OnCompressed.codec BufferCreate.codec⟩

/-- Executions. -/
def executeSync : Layout ExecuteSync :=
  ⟨"TransactionExecuteSyncArgs", ExecuteSync.codec⟩

/-- Executions for a wallet with compressed settings. -/
def executeSyncCompressed : Layout (OnCompressed ExecuteSync) :=
  ⟨"TransactionExecuteSyncCompressedArgs", OnCompressed.codec ExecuteSync.codec⟩

/-- Creations of user accounts. -/
def createUserAccounts : Layout CreateUserAccounts :=
  ⟨"CreateUserAccountsArgs", CreateUserAccounts.codec⟩

/-- Changes of a user's co-signer. -/
def editManagerUrl : Layout EditManagerUrl :=
  ⟨"EditTransactionManagerUrlArgs", EditManagerUrl.codec⟩

end Layout

end Cosigner
