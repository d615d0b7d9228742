import Cosigner.Message.Basic

/-!
# The Wire Form of a Message

A message is written as the three counts of its header, then its keys, its
instructions and its lookups, each list behind its length. Lengths are one byte,
but the length of an instruction's data is two. The form is self-delimiting, so
the end of a message is known from its bytes, and more bytes are refused.

Writing fails only for a part that is larger than its length can count. The
parts are measured in the order in which they are written, and the first one
that is too large is reported.

## Main definitions

* `WalletMessage.codec`: The layout.
* `WalletMessage.extents`: The sizes that the layout has to write.
* `WalletMessage.encode`, `WalletMessage.decode`: The two directions.
-/

namespace Cosigner

/-- The layout of a header: three counts. -/
def Header.codec : Codec Header :=
  (Codec.u8.pair (Codec.u8.pair Codec.u8)).imap
    (fun (signers, writableSigners, writableNonSigners) =>
      ⟨signers, writableSigners, writableNonSigners⟩)
    fun h => (h.signers, h.writableSigners, h.writableNonSigners)

/-- The layout of an instruction. -/
def IndexedInstruction.codec : Codec IndexedInstruction :=
  (Codec.u8.pair ((Codec.blob 1).pair (Codec.blob 2))).imap
    (fun (program, accounts, data) => ⟨program, accounts, data⟩)
    fun ix => (ix.program, ix.accounts, ix.data)

/-- The layout of a table lookup. -/
def TableLookup.codec : Codec TableLookup :=
  ((Codec.octets 32).pair ((Codec.blob 1).pair (Codec.blob 1))).imap
    (fun (table, writable, readonly) => ⟨table, writable, readonly⟩)
    fun l => (l.table, l.writable, l.readonly)

namespace WalletMessage

/-- The layout of a message. -/
def codec : Codec WalletMessage :=
  (Header.codec.pair ((Codec.listOf 1 (Codec.octets 32)).pair
    ((Codec.listOf 1 IndexedInstruction.codec).pair
      (Codec.listOf 1 TableLookup.codec)))).imap
    (fun (header, keys, instructions, lookups) => ⟨header, keys, instructions, lookups⟩)
    fun m => (m.header, m.keys, m.instructions, m.lookups)

/-- The sizes that the layout has to write, in its order. -/
def extents (m : WalletMessage) : List (MessagePart × Nat) :=
  (.keys, m.keys.length) :: (.instructions, m.instructions.length) ::
    m.instructions.flatMap (fun ix =>
      [(.accountIndexes, ix.accounts.length), (.instructionData, ix.data.length)]) ++
    (.lookups, m.lookups.length) ::
    m.lookups.flatMap (fun l =>
      [(.writableIndexes, l.writable.length), (.readonlyIndexes, l.readonly.length)])

/-- The wire form of a message, if no part of it is too large. -/
def encode (m : WalletMessage) : Except MessageError Bytes :=
  match m.extents.find? (fun e => e.1.limit < e.2) with
  | some (part, size) => .error (.oversized part size)
  | none => .ok (codec.encode m)

/-- The message that a byte string spells. -/
def decode (bs : Bytes) : Except MessageError WalletMessage :=
  match codec.decodeAll bs with
  | .ok m => .ok m
  | .error fault => .error (.undecodable bs.length fault)

end WalletMessage

end Cosigner
