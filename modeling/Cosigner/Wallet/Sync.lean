import Cosigner.Wallet.Arguments

/-!
# Messages Executed at Once

A message that is executed at once has no keys of its own. The instruction that
carries it hands over three fixed accounts, then the lookup tables, then the
message's keys, all of them carried and loaded ones in one row.

The role of a key comes from two places: whether it signs is said by the
message's header, whether it may be written to by the carrying instruction.

## Main definitions

* `SyncMessage.window`: The accounts that are the message's keys.
* `SyncMessage.decompile`: The message as instructions.
-/

namespace Cosigner

/-- Why a message executed at once cannot be decompiled. -/
inductive SyncError where
  /-- The keys would be the accounts from `start` up to `stop`, but there are
      only `count` accounts. -/
  | tooFewAccounts (start stop count : Nat)
  /-- An instruction names a place that none of `count` keys has. -/
  | badIndex (index : UInt8) (count : Nat)
  deriving DecidableEq, Repr

/-- Wording of the error. -/
def SyncError.message : SyncError → String
  | .tooFewAccounts start stop count =>
    s!"sync message needs accounts {start}..{stop}, instruction has {count}"
  | .badIndex index count =>
    s!"sync message account index {index.toNat} out of range ({count} keys)"

namespace SyncMessage

/-- The accounts in front of the lookup tables: the settings or the payer, and
    two accounts of the system. -/
def leadingAccounts : Nat := 3

/-- The accounts that are the message's keys. -/
def window (m : SyncMessage) (outer : Instruction) : Except SyncError (List AccountRef) :=
  let start := leadingAccounts + m.tableCount.toNat
  let stop := start + m.keyCount.toNat
  if stop ≤ outer.accounts.length then
    .ok ((outer.accounts.drop start).take m.keyCount.toNat)
  else .error (.tooFewAccounts start stop outer.accounts.length)

/-- The key at a place. -/
def keyAt (keys : List AccountRef) (index : UInt8) : Except SyncError AccountRef :=
  match keys[index.toNat]? with
  | some key => .ok key
  | none => .error (.badIndex index keys.length)

/-- The key at a place, with its role in the message. -/
def refAt (m : SyncMessage) (keys : List AccountRef) (index : UInt8) :
    Except SyncError AccountRef := do
  let key ← keyAt keys index
  return ⟨key.key, ⟨m.header.isSigner index.toNat, key.role.writable⟩⟩

/-- An instruction with addresses for places. -/
def resolve (m : SyncMessage) (keys : List AccountRef) (ix : IndexedInstruction) :
    Except SyncError Instruction := do
  let program ← keyAt keys ix.program
  let accounts ← ix.accounts.mapM (m.refAt keys)
  return ⟨program.key, accounts, ix.data⟩

/-- The message as instructions, given the instruction that carries it. -/
def decompile (m : SyncMessage) (outer : Instruction) : Except SyncError (List Instruction) := do
  let keys ← m.window outer
  m.instructions.mapM (m.resolve keys)

end SyncMessage

end Cosigner
