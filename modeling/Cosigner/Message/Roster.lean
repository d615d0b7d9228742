import Cosigner.Message.Basic

/-!
# The Roster of Keys

Before a message can be written down, its keys have to be gathered. `references`
lists every mention of a key: the payer, then for each instruction the program
and the accounts. A roster holds each mentioned key once, in the order of first
mention, with everything that its mentions together allow.

A lookup table relieves the message of keys. A key that does not sign and that
stands in the table leaves the roster and is loaded instead, from its first
entry there. Both searches, for writable and for readonly keys, are over before
any key leaves, so a table that turns out to be unusable changes nothing.

What is left in the end is laid out by role, which gives the carried keys and
the header.

## Main definitions

* `references`: Every mention of a key by a payer and instructions.
* `Roster.gather`: The roster of a payer and instructions.
* `Roster.extract`: Moves keys to a lookup table.
* `Roster.layout`: The carried keys and their header.
-/

namespace Cosigner

/-- The mentions of keys by one instruction: its program, then its accounts. -/
def Instruction.references (ix : Instruction) : List AccountRef :=
  ⟨ix.program, .plain⟩ :: ix.accounts

/-- Every mention of a key by a payer and instructions, in order. -/
def references (payer : Address) (ixs : List Instruction) : List AccountRef :=
  ⟨payer, .payer⟩ :: ixs.flatMap Instruction.references

/-- The keys still to be carried, in the order of first mention. -/
structure Roster where
  /-- The account that pays. -/
  payer : Address
  /-- Each key once, with all that its mentions allow. -/
  entries : List AccountRef
  deriving DecidableEq

/-- Keys that a lookup table took over. -/
structure Extraction where
  /-- The entries of the table to load. -/
  lookup : TableLookup
  /-- The keys at these entries. -/
  loaded : LoadedKeys
  deriving DecidableEq

namespace Roster

/-- Adds a mention: to the entry of its key, or as a new last entry. -/
def note (entries : List AccountRef) (mention : AccountRef) : List AccountRef :=
  match entries with
  | [] => [mention]
  | e :: rest =>
    if e.key = mention.key then { e with role := e.role.join mention.role } :: rest
    else e :: note rest mention

/-- The roster of a payer and instructions. -/
def gather (payer : Address) (ixs : List Instruction) : Roster :=
  ⟨payer, (references payer ixs).foldl note []⟩

/-- The role of a key still to be carried. -/
def get? (r : Roster) (key : Address) : Option Role :=
  (r.entries.find? (·.key = key)).map (·.role)

/-- The number of keys still to be carried. -/
def length (r : Roster) : Nat :=
  r.entries.length

/-- Whether a key may be loaded from a table: it does not sign and the message
    does not call it. -/
def loadable (e : AccountRef) : Bool :=
  !e.role.signer && !e.role.invoked

/-- The loadable keys of one writability that stand in a table, with their first
    entries, in roster order. -/
def matching (r : Roster) (table : LookupTable) (writable : Bool) : List (Nat × Address) :=
  (r.entries.filter fun e => loadable e && e.role.writable == writable).filterMap fun e =>
    (table.addresses.idxOf? e.key).map fun place => (place, e.key)

/-- The entries and keys of a match, if every entry fits into a byte. -/
def located (found : List (Nat × Address)) : Except MessageError (List UInt8 × List Address) :=
  if found.all (fun p => p.1 < 256) then
    .ok (found.map (fun p => UInt8.ofNat p.1), found.map (·.2))
  else .error .lookupOverflow

/-- The keys that a table can take over, if any. -/
def extraction? (r : Roster) (table : LookupTable) :
    Except MessageError (Option Extraction) := do
  let (writableIndexes, writable) ← located (r.matching table true)
  let (readonlyIndexes, readonly) ← located (r.matching table false)
  if writable.isEmpty && readonly.isEmpty then return none
  else return some ⟨⟨table.key, writableIndexes, readonlyIndexes⟩, ⟨writable, readonly⟩⟩

/-- The roster without the given keys. -/
def without (r : Roster) (keys : List Address) : Roster :=
  { r with entries := r.entries.filter fun e => !keys.contains e.key }

/-- Moves keys to a lookup table. The second component is the roster afterwards,
    which differs from the one before only if keys were moved. -/
def extract (r : Roster) (table : LookupTable) :
    Except MessageError (Option Extraction) × Roster :=
  match r.extraction? table with
  | .ok (some x) => (.ok (some x), r.without x.loaded.toList)
  | .ok none => (.ok none, r)
  | .error e => (.error e, r)

/-- The keys of one role, in roster order. -/
def group (r : Roster) (role : Role) : List Address :=
  (r.entries.filter (·.role = role)).map (·.key)

/-- A count as a byte. -/
def countByte (n : Nat) : Except MessageError UInt8 :=
  if n < 256 then .ok (UInt8.ofNat n) else .error .tooManyKeys

/-- The carried keys, grouped by role, and the header that divides them. -/
def layout (r : Roster) : Except MessageError (Header × List Address) := do
  if 256 < r.length then throw .tooManyKeys
  let writableSigners := r.group ⟨true, true⟩
  let readonlySigners := r.group ⟨true, false⟩
  let writableNonSigners := r.group ⟨false, true⟩
  let readonlyNonSigners := r.group ⟨false, false⟩
  match writableSigners.head? with
  | none => throw .noWritableSigner
  | some first => if first ≠ r.payer then throw .payerNotFirst
  let signerCount ← countByte (writableSigners.length + readonlySigners.length)
  let writableSignerCount ← countByte writableSigners.length
  let writableNonSignerCount ← countByte writableNonSigners.length
  return (⟨signerCount, writableSignerCount, writableNonSignerCount⟩,
    writableSigners ++ readonlySigners ++ writableNonSigners ++ readonlyNonSigners)

end Roster

end Cosigner
