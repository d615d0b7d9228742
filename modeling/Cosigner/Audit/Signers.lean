import Cosigner.Passkey.SignedMessage
import Cosigner.Refusal
import Cosigner.Wallet.Arguments

/-!
# Signers of an Instruction

An instruction of the wallet program is authorized by two kinds of signers. Keys
that signed the transaction itself are plain signers; their signatures are
checked with the transaction. Passkeys signed messages that the transaction
carries, and the instruction's arguments say which of them count.

The account that pays for the transaction signs it anyway and authorizes
nothing by that, so it is left out. A key counts once, however often it is
named; a signed message counts as often as it is named, because responses are
matched with signers by their places.

## Main definitions

* `Signer`: A key that authorizes an instruction.
* `signersOf`: The signers of an instruction.
-/

namespace Cosigner

/-- What is known of a message that a passkey signed. -/
structure PasskeyProof where
  /-- The SHA-256 digest of the message. -/
  messageHash : Octets 32
  /-- The slot that the instruction says it was signed for. -/
  slot : UInt64
  deriving DecidableEq

/-- A key that authorizes an instruction. -/
inductive Signer where
  /-- A key that signed the transaction. -/
  | plain (key : Address)
  /-- A passkey, with what is known of the message that it signed. -/
  | passkey (key : Passkey) (proof : Option PasskeyProof)
  deriving DecidableEq

namespace Signer

/-- Whether a signer is a passkey. -/
def isPasskey : Signer → Bool
  | .plain _ => false
  | .passkey _ _ => true

/-- How many signers are passkeys. -/
def passkeyCount (signers : List Signer) : Nat :=
  signers.countP isPasskey

/-- The passkey that signed the message that a use refers to. -/
def ofUse (messages : List SignedMessage) (use : MessageUse) : Except Refusal Signer :=
  match messages[use.message.toNat]? with
  | some m => .ok (.passkey m.publicKey (some ⟨m.hash, use.slot⟩))
  | none => .error (.missingSignedMessage use.message messages.length)

end Signer

/-- The entries of a list, each at its first place only. -/
def firstOccurrences {α : Type} [DecidableEq α] : List α → List α
  | [] => []
  | x :: rest => x :: (firstOccurrences rest).filter (· ≠ x)

/-- The plain signers of an instruction. -/
def plainSigners (feePayer : Address) (ix : Instruction) : List Address :=
  firstOccurrences ((ix.accounts.filter fun ref => ref.role.signer && ref.key ≠ feePayer).map
    (·.key))

/-- The signers of an instruction: plain ones, then passkeys. -/
def signersOf (feePayer : Address) (messages : List SignedMessage) (ix : Instruction)
    (uses : List MessageUse) : Except Refusal (List Signer) := do
  let passkeys ← uses.mapM (Signer.ofUse messages)
  return (plainSigners feePayer ix).map .plain ++ passkeys

end Cosigner
