import Cosigner.Instruction

/-!
# Wallet Messages

A wallet message is a list of instructions with every address written once. The
instructions refer to addresses by their place in one flat sequence of at most
256 keys, so that a place fits into a byte.

The sequence has three segments. First come the keys that the message carries
itself, ordered by role: writable signers, readonly signers, writable
non-signers, readonly non-signers. Three counts in the header say where one
group ends and the next begins. Then come the keys loaded from lookup tables,
writable ones before readonly ones; a loaded key never signs.

## Main definitions

* `Header`: The counts that divide the carried keys by role.
* `IndexedInstruction`: An instruction with places for addresses.
* `TableLookup`: Which entries of a table a message loads.
* `WalletMessage`: The message.
* `LookupTable`: A table's address and entries.
* `LoadedKeys`: Keys loaded from tables.
* `MessageError`: Why a message cannot be made or read.
-/

namespace Cosigner

/-- The counts that divide the carried keys by role. -/
structure Header where
  /-- Signers, which come first. -/
  signers : UInt8
  /-- Signers that may be written to, which come first among them. -/
  writableSigners : UInt8
  /-- Non-signers that may be written to, which come right after the signers. -/
  writableNonSigners : UInt8
  deriving DecidableEq, Repr, Inhabited

namespace Header

/-- Whether the carried key at a place is a signer. -/
def isSigner (h : Header) (place : Nat) : Bool :=
  place < h.signers.toNat

/-- Whether the carried key at a place may be written to. -/
def isWritable (h : Header) (place : Nat) : Bool :=
  if place < h.signers.toNat then place < h.writableSigners.toNat
  else place - h.signers.toNat < h.writableNonSigners.toNat

/-- The role of the carried key at a place. -/
def role (h : Header) (place : Nat) : Role :=
  ⟨h.isSigner place, h.isWritable place⟩

end Header

/-- An instruction whose addresses are places in the flat sequence of keys. -/
structure IndexedInstruction where
  /-- The place of the program called. -/
  program : UInt8
  /-- The places of the accounts handed to it, in order. -/
  accounts : List UInt8
  /-- The bytes it reads. -/
  data : Bytes
  deriving DecidableEq

/-- Which entries of a lookup table a message loads. -/
structure TableLookup where
  /-- The address of the table. -/
  table : Address
  /-- The entries loaded writable. -/
  writable : List UInt8
  /-- The entries loaded readonly. -/
  readonly : List UInt8
  deriving DecidableEq

/-- A list of instructions with every address written once. -/
structure WalletMessage where
  /-- The division of the carried keys by role. -/
  header : Header
  /-- The keys that the message carries itself. -/
  keys : List Address
  /-- The instructions. -/
  instructions : List IndexedInstruction
  /-- The keys loaded from tables. -/
  lookups : List TableLookup
  deriving DecidableEq

/-- A lookup table: a list of addresses that lives under an address. -/
structure LookupTable where
  /-- The address of the table. -/
  key : Address
  /-- Its entries. -/
  addresses : List Address
  deriving DecidableEq

/-- The entries of the table under an address. If several tables are listed
    under it, the last one counts. -/
def LookupTable.addresses? (tables : List LookupTable) (key : Address) : Option (List Address) :=
  (tables.findRev? (·.key = key)).map (·.addresses)

/-- Keys loaded from tables, in the order of loading. -/
structure LoadedKeys where
  /-- The keys loaded writable. -/
  writable : List Address
  /-- The keys loaded readonly. -/
  readonly : List Address
  deriving DecidableEq, Inhabited

namespace LoadedKeys

/-- No keys. -/
def empty : LoadedKeys := ⟨[], []⟩

/-- The keys of several loadings, the writable ones of all in front of the
    readonly ones of all. -/
def concat (parts : List LoadedKeys) : LoadedKeys :=
  ⟨parts.flatMap (·.writable), parts.flatMap (·.readonly)⟩

/-- All keys, writable ones first. -/
def toList (l : LoadedKeys) : List Address :=
  l.writable ++ l.readonly

/-- The number of keys. -/
def length (l : LoadedKeys) : Nat :=
  l.writable.length + l.readonly.length

end LoadedKeys

/-- The parts of a message whose size is written in a fixed number of bytes. -/
inductive MessagePart where
  /-- The carried keys. -/
  | keys
  /-- The instructions. -/
  | instructions
  /-- The accounts of one instruction. -/
  | accountIndexes
  /-- The data of one instruction. -/
  | instructionData
  /-- The table lookups. -/
  | lookups
  /-- The writable entries of one lookup. -/
  | writableIndexes
  /-- The readonly entries of one lookup. -/
  | readonlyIndexes
  deriving DecidableEq, Repr

namespace MessagePart

/-- The largest size that can be written. -/
def limit : MessagePart → Nat
  | .instructionData => 65535
  | _ => 255

/-- Wording of the complaint about a part that is too large. -/
def complaint (size : Nat) : MessagePart → String
  | .keys => s!"too many account keys: {size}"
  | .instructions => s!"too many instructions: {size}"
  | .accountIndexes => s!"too many account indexes: {size}"
  | .instructionData => "instruction data exceeds u16::MAX"
  | .lookups => s!"too many lookups: {size}"
  | .writableIndexes => s!"too many writable indexes: {size}"
  | .readonlyIndexes => s!"too many readonly indexes: {size}"

end MessagePart

/-- Why a message cannot be made or read. -/
inductive MessageError where
  /-- A part of a message is too large to be written. -/
  | oversized (part : MessagePart) (size : Nat)
  /-- The `size` bytes of a message do not decode. -/
  | undecodable (size : Nat) (fault : Codec.Fault)
  /-- There are more keys to carry than places, or too many of one role. -/
  | tooManyKeys
  /-- No key signs and may be written to. -/
  | noWritableSigner
  /-- The first writable signer is not the payer. -/
  | payerNotFirst
  /-- A key stands at an entry of its table that no byte can name. -/
  | lookupOverflow
  /-- There are more keys than places. -/
  | indexOverflow
  /-- An instruction names a key that has no place. -/
  | unknownKey (key : Address)
  /-- An instruction names a place that has no key. -/
  | badIndex (index : UInt8)
  /-- A message loads from a table that is not at hand. -/
  | tableMissing (table : Address)
  /-- A message loads an entry that its table does not have. -/
  | badLookup (table : Address) (index : UInt8)
  deriving DecidableEq

/-- The name of a message error in reports. -/
def MessageError.name : MessageError → String
  | .oversized _ _ | .undecodable _ _ => "MalformedMessage"
  | .tooManyKeys => "TooManyAccounts"
  | .noWritableSigner => "NoWritableSigner"
  | .payerNotFirst => "PayerNotFirst"
  | .lookupOverflow => "LookupIndexOverflow"
  | .indexOverflow => "AccountIndexOverflow"
  | .unknownKey _ => "UnknownAccountKey"
  | .badIndex _ => "InvalidAccountIndex"
  | .tableMissing _ => "LookupTableNotFound"
  | .badLookup _ _ => "InvalidLookupIndex"

/-- Wording of a message error. -/
def MessageError.message : MessageError → String
  | .oversized part size => s!"Malformed message: {part.complaint size}"
  | .undecodable size fault => s!"Malformed message: {fault.placedMessage size}"
  | .tooManyKeys => "More than 256 distinct account keys"
  | .noWritableSigner => "Message has no writable signer"
  | .payerNotFirst => "First writable signer is not the fee payer"
  | .lookupOverflow => "Address lookup table index overflowed during compilation"
  | .indexOverflow => "Account index overflowed during compilation"
  | .unknownKey key =>
    s!"Encountered unknown account key `{Address.toText key}` during instruction compilation"
  | .badIndex index => s!"Account index {index.toNat} is out of range"
  | .tableMissing table =>
    s!"Address lookup table `{Address.toText table}` was not resolved"
  | .badLookup table index =>
    s!"Index {index.toNat} is out of range for lookup table `{Address.toText table}`"

end Cosigner
