import Cosigner.Instruction
import Cosigner.Wallet.Program
import Cosigner.Wallet.Settings

/-!
# Messages Signed by Passkeys

Passkey signatures are checked on chain, by a program that is called in the same
transaction. Its instruction data starts with the number of signatures and a
byte that means nothing, then has a record of offsets for each. A record says
where the signature, the key and the message are: at which offset, and in the
data of which instruction of the transaction, or of the instruction itself.

The co-signer reads the same records, so it knows which keys signed what, and
takes the messages of all such instructions in one row. The chain checks the
signatures themselves.

## Main definitions

* `SignatureOffsets`: Where the parts of one signature are.
* `SignedMessage`: A key and what it signed.
* `signedMessages`: The signed messages of a transaction.
* `verifyInstruction`: An instruction that carries signatures with it.
-/

namespace Cosigner

/-- Where the parts of one signature are. -/
structure SignatureOffsets where
  /-- Offset of the signature. -/
  signature : UInt16
  /-- The instruction that holds the signature. -/
  signatureInstruction : UInt16
  /-- Offset of the key. -/
  publicKey : UInt16
  /-- The instruction that holds the key. -/
  publicKeyInstruction : UInt16
  /-- Offset of the message. -/
  message : UInt16
  /-- Length of the message. -/
  messageSize : UInt16
  /-- The instruction that holds the message. -/
  messageInstruction : UInt16
  deriving DecidableEq

namespace SignatureOffsets

/-- The length of a record. -/
def size : Nat := 14

/-- Where the records start. -/
def start : Nat := 2

/-- The number that stands for the instruction with the record. -/
def current : UInt16 := 0xFFFF

/-- The layout of a record: seven numbers. -/
def codec : Codec SignatureOffsets :=
  (Codec.u16.pair (Codec.u16.pair (Codec.u16.pair (Codec.u16.pair (Codec.u16.pair
    (Codec.u16.pair Codec.u16)))))).imap
    (fun (a, b, c, d, e, f, g) => ⟨a, b, c, d, e, f, g⟩)
    fun o => (o.signature, o.signatureInstruction, o.publicKey, o.publicKeyInstruction,
      o.message, o.messageSize, o.messageInstruction)

end SignatureOffsets

/-- A key and what it signed. -/
structure SignedMessage where
  /-- The key. -/
  publicKey : Passkey
  /-- What it signed. -/
  message : Bytes
  /-- The SHA-256 digest of the message. -/
  hash : Octets 32
  deriving DecidableEq

/-- What is wrong with an instruction that carries signatures. -/
inductive VerifyFault where
  /-- It has no data. -/
  | empty
  /-- A record does not fit into the data. -/
  | truncated
  /-- A record refers to an instruction that the transaction does not have. -/
  | badInstruction
  /-- A record refers to bytes that an instruction does not have. -/
  | badOffset
  deriving DecidableEq, Repr

/-- Wording of the fault. -/
def VerifyFault.message : VerifyFault → String
  | .empty => "empty data"
  | .truncated => "truncated offsets"
  | .badInstruction => "instruction index out of range"
  | .badOffset => "offset out of range"

/-- The `length` bytes at an offset, if there are that many. -/
def bytesAt? (bs : Bytes) (offset length : Nat) : Option Bytes :=
  if offset + length ≤ bs.length then some ((bs.drop offset).take length) else none

namespace SignedMessage

/-- The data that a record refers to. -/
def source (ixs : List Instruction) (own : Bytes) (instruction : UInt16) :
    Except VerifyFault Bytes :=
  if instruction = SignatureOffsets.current then .ok own
  else
    match ixs[instruction.toNat]? with
    | some ix => .ok ix.data
    | none => .error .badInstruction

/-- The bytes that a record refers to. -/
def slice (ixs : List Instruction) (own : Bytes) (instruction offset : UInt16) (length : Nat) :
    Except VerifyFault Bytes := do
  let data ← source ixs own instruction
  match bytesAt? data offset.toNat length with
  | some bs => return bs
  | none => throw .badOffset

/-- The record at a place. -/
def recordAt (own : Bytes) (place : Nat) : Except VerifyFault SignatureOffsets :=
  let offset := SignatureOffsets.start + place * SignatureOffsets.size
  match bytesAt? own offset SignatureOffsets.size with
  | some bs => (SignatureOffsets.codec.decodeAll bs).mapError fun _ => .truncated
  | none => .error .truncated

/-- The signed message of a record. The key is looked up before the message. -/
def ofRecord (ixs : List Instruction) (own : Bytes) (o : SignatureOffsets) :
    Except VerifyFault SignedMessage := do
  let key ← slice ixs own o.publicKeyInstruction o.publicKey 33
  let message ← slice ixs own o.messageInstruction o.message o.messageSize.toNat
  match Octets.ofBytes? 33 key with
  | some key => return ⟨key, message, Sha256.digest message⟩
  | none => throw .badOffset

/-- The signed messages of one instruction, given its data. -/
def ofData (ixs : List Instruction) (own : Bytes) : Except VerifyFault (List SignedMessage) :=
  match own with
  | [] => .error .empty
  | count :: _ =>
    (List.range count.toNat).mapM fun place => do
      ofRecord ixs own (← recordAt own place)

/-- The signed messages of the instructions from a position on. A fault comes
    with the position of its instruction. -/
def collect (ixs : List Instruction) :
    Nat → List Instruction → Except (Nat × VerifyFault) (List SignedMessage)
  | _, [] => .ok []
  | position, ix :: rest =>
    if ix.program = Program.passkeyVerifier then
      match ofData ixs ix.data with
      | .error fault => .error (position, fault)
      | .ok found => (found ++ ·) <$> collect ixs (position + 1) rest
    else collect ixs (position + 1) rest

end SignedMessage

/-- The signed messages of a transaction, in order. -/
def signedMessages (ixs : List Instruction) : Except (Nat × VerifyFault) (List SignedMessage) :=
  SignedMessage.collect ixs 0 ixs

/-- A signature to carry along: its key, the signature, the message. -/
structure SignatureEntry where
  /-- The key. -/
  publicKey : Passkey
  /-- The signature. -/
  signature : Octets 64
  /-- The message. -/
  message : Bytes
  deriving DecidableEq

namespace SignatureEntry

/-- The bytes of an entry: key, signature, message. -/
def bytes (e : SignatureEntry) : Bytes :=
  e.publicKey.toBytes ++ e.signature.toBytes ++ e.message

/-- The record of an entry whose bytes start at an offset, if all numbers in it
    are small enough. -/
def record? (start : Nat) (e : SignatureEntry) : Option SignatureOffsets :=
  let message := start + 33 + 64
  if message < 65536 ∧ e.message.length < 65536 then
    some {
      signature := UInt16.ofNat (start + 33)
      signatureInstruction := SignatureOffsets.current
      publicKey := UInt16.ofNat start
      publicKeyInstruction := SignatureOffsets.current
      message := UInt16.ofNat message
      messageSize := UInt16.ofNat e.message.length
      messageInstruction := SignatureOffsets.current }
  else none

/-- The records of entries whose bytes follow each other from an offset on. -/
def records? : Nat → List SignatureEntry → Option (List SignatureOffsets)
  | _, [] => some []
  | start, e :: rest => do
    return (← e.record? start) :: (← records? (start + e.bytes.length) rest)

end SignatureEntry

/-- An instruction that carries signatures with it, if they are few and short
    enough for its offsets. -/
def verifyInstruction (entries : List SignatureEntry) : Option Instruction := do
  if 255 < entries.length then none
  else
    let start := SignatureOffsets.start + entries.length * SignatureOffsets.size
    let records ← SignatureEntry.records? start entries
    return {
      program := Program.passkeyVerifier
      accounts := []
      data := UInt8.ofNat entries.length :: 0 :: records.flatMap SignatureOffsets.codec.encode
        ++ entries.flatMap SignatureEntry.bytes }

end Cosigner
