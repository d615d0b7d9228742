import Cosigner.Message.Basic

/-!
# Transaction Messages

The message of a transaction itself looks much like a wallet message. It counts
differently: its header says how many keys sign, and how many keys at the end of
either group are readonly. `wrap` turns these counts into those of a wallet
message, after which there is only one way to read instructions.

A header may count more keys than there are, or more writable ones than the
header of a wallet message can say. Such a message is refused.

## Main definitions

* `TransactionMessage`: The message of a transaction.
* `TransactionMessage.wrap`: The same message as a wallet message.
* `TransactionFault`: Why a message is refused.
-/

namespace Cosigner

/-- The message of a transaction. One without lookups may be of either version,
    which makes no difference here. -/
structure TransactionMessage where
  /-- How many keys sign; they come first. -/
  signers : UInt8
  /-- How many signers, at the end of them, are readonly. -/
  readonlySigners : UInt8
  /-- How many other keys, at the end of them, are readonly. -/
  readonlyNonSigners : UInt8
  /-- The keys that the message carries. -/
  keys : List Address
  /-- The instructions. -/
  instructions : List IndexedInstruction
  /-- The keys loaded from tables. -/
  lookups : List TableLookup
  deriving DecidableEq

/-- Why the message of a transaction is refused. -/
inductive TransactionFault where
  /-- It counts more readonly signers than signers. -/
  | readonlySigners
  /-- It counts more keys than it has, or than a header can say. -/
  | headerCounts
  /-- It has no keys. -/
  | noFeePayer
  deriving DecidableEq, Repr

/-- Wording of the fault. -/
def TransactionFault.message : TransactionFault → String
  | .readonlySigners => "more readonly signers than signers"
  | .headerCounts => "header counts exceed static keys"
  | .noFeePayer => "no fee payer"

namespace TransactionMessage

/-- The counts of a wallet message with the same roles. -/
def header (m : TransactionMessage) : Except TransactionFault Header :=
  let readonly := m.signers.toNat + m.readonlyNonSigners.toNat
  if m.signers < m.readonlySigners then .error .readonlySigners
  else if readonly ≤ m.keys.length ∧ m.keys.length - readonly < 256 then
    .ok ⟨m.signers, m.signers - m.readonlySigners, UInt8.ofNat (m.keys.length - readonly)⟩
  else .error .headerCounts

/-- The same message as a wallet message. -/
def wrap (m : TransactionMessage) : Except TransactionFault WalletMessage := do
  let header ← m.header
  return ⟨header, m.keys, m.instructions, m.lookups⟩

/-- The account that pays: the first key. -/
def feePayer (m : TransactionMessage) : Except TransactionFault Address :=
  match m.keys with
  | key :: _ => .ok key
  | [] => .error .noFeePayer

end TransactionMessage

end Cosigner
