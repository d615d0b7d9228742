import Cosigner.Wallet.Arguments

/-!
# Requests to the Wallet Program

A request is instruction data that has been understood: the operation it asks
for, with its arguments. Ten layouts of arguments cover twelve operations, since
a transfer is written the same way for the native currency and for tokens.

Three operations need no authorization beyond what the program checks itself, so
their arguments are not even looked at. Every other operation, and every
discriminator that names none, is unrouted: the co-signer does not sign what it
does not understand.

## Main definitions

* `Request`: Instruction data that has been understood.
* `Request.parse`: Reads instruction data.
-/

namespace Cosigner

/-- What an unrouted request asks for. -/
inductive Unrouted where
  /-- An operation that is not co-signed. -/
  | operation (op : Operation)
  /-- A discriminator that names no operation. -/
  | discriminator (d : Discriminator)
  deriving DecidableEq

/-- The text that stands for an unrouted request: the name of the operation, or
    the bytes of the discriminator in decimal. -/
def Unrouted.text : Unrouted → String
  | .operation op => op.name
  | .discriminator d =>
    let numbers := d.toBytes.map fun b => toString b.toNat
    "[" ++ String.intercalate ", " numbers ++ "]"

/-- Instruction data that has been understood. -/
inductive Request where
  /-- Change settings. -/
  | changeConfig (arguments : ChangeConfig)
  /-- Change compressed settings. -/
  | changeConfigCompressed (arguments : OnCompressed ChangeConfig)
  /-- Transfer the native currency or tokens. -/
  | transferIntent (arguments : TransferIntent)
  /-- Transfer from a wallet with compressed settings. -/
  | transferIntentCompressed (arguments : OnCompressed TransferIntent)
  /-- Create a transaction buffer. -/
  | bufferCreate (arguments : BufferCreate)
  /-- Create a buffer for a wallet with compressed settings. -/
  | bufferCreateCompressed (arguments : OnCompressed BufferCreate)
  /-- Execute a message at once. -/
  | executeSync (arguments : ExecuteSync)
  /-- Execute a message for a wallet with compressed settings. -/
  | executeSyncCompressed (arguments : OnCompressed ExecuteSync)
  /-- Create user accounts. -/
  | createUserAccounts (arguments : CreateUserAccounts)
  /-- Change where a user's co-signer is found. -/
  | editManagerUrl (arguments : EditManagerUrl)
  /-- An operation that needs no authorization here. -/
  | noOp (op : Operation)
  /-- Anything else. -/
  | unrouted (what : Unrouted)
  deriving DecidableEq

namespace Request

/-- Reads the arguments of an operation. -/
def ofArguments (op : Operation) (bs : Bytes) : Except LayoutError Request :=
  match op with
  | .changeConfig => .changeConfig <$> Layout.changeConfig.read bs
  | .changeConfigCompressed => .changeConfigCompressed <$> Layout.changeConfigCompressed.read bs
  | .nativeTransferIntent => .transferIntent <$> Layout.transferIntent.read bs
  | .tokenTransferIntent => .transferIntent <$> Layout.transferIntent.read bs
  | .nativeTransferIntentCompressed =>
    .transferIntentCompressed <$> Layout.transferIntentCompressed.read bs
  | .tokenTransferIntentCompressed =>
    .transferIntentCompressed <$> Layout.transferIntentCompressed.read bs
  | .transactionBufferCreate => .bufferCreate <$> Layout.bufferCreate.read bs
  | .transactionBufferCreateCompressed =>
    .bufferCreateCompressed <$> Layout.bufferCreateCompressed.read bs
  | .transactionExecuteSync => .executeSync <$> Layout.executeSync.read bs
  | .transactionExecuteSyncCompressed =>
    .executeSyncCompressed <$> Layout.executeSyncCompressed.read bs
  | .createUserAccounts => .createUserAccounts <$> Layout.createUserAccounts.read bs
  | .editTransactionManagerUrl => .editManagerUrl <$> Layout.editManagerUrl.read bs
  | .decompressSettingsAccount => .ok (.noOp op)
  | .transactionBufferClose => .ok (.noOp op)
  | .transactionBufferCloseCompressed => .ok (.noOp op)
  | _ => .ok (.unrouted (.operation op))

/-- Reads instruction data. -/
def parse (data : Bytes) : Except LayoutError Request := do
  let (d, arguments) ← Operation.split data
  match Operation.ofDiscriminator? d with
  | some op => ofArguments op arguments
  | none => return .unrouted (.discriminator d)

end Request

end Cosigner
