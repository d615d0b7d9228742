import Cosigner.Message.KeySpace
import Cosigner.Message.Roster

/-!
# Compiling and Decompiling

A message is compiled in three steps: the keys are gathered, each lookup table
in turn relieves the roster of keys, and what is left is laid out, which fixes
the place of every key. A table that takes over no key leaves no trace in the
message.

Decompiling needs the contents of the tables again. A table that is not at hand
or too short is reported before any instruction is looked at.

## Main definitions

* `WalletMessage.compile`: Instructions as a message.
* `WalletMessage.loadedKeys`: The keys that a message loads.
* `WalletMessage.decompile`: A message as instructions.
-/

namespace Cosigner

namespace Roster

/-- Moves keys to several tables in turn, and stops at the first table that
    fails. -/
def extractAll (r : Roster) : List LookupTable → Except MessageError (List Extraction × Roster)
  | [] => .ok ([], r)
  | table :: rest => do
    let (outcome, after) := r.extract table
    let extraction ← outcome
    let (others, last) ← after.extractAll rest
    return (extraction.toList ++ others, last)

end Roster

namespace WalletMessage

/-- Instructions as a message paid for by `payer`, with keys loaded from the
    given tables where they can be. -/
def compile (payer : Address) (ixs : List Instruction) (tables : List LookupTable) :
    Except MessageError WalletMessage := do
  let (extractions, roster) ← (Roster.gather payer ixs).extractAll tables
  let (header, keys) ← roster.layout
  let space : KeySpace := ⟨keys, LoadedKeys.concat (extractions.map (·.loaded))⟩
  let instructions ← space.indexAll ixs
  return ⟨header, keys, instructions, extractions.map (·.lookup)⟩

/-- The key at an entry of a table. -/
def loadEntry (table : Address) (addresses : List Address) (index : UInt8) :
    Except MessageError Address :=
  match addresses[index.toNat]? with
  | some key => .ok key
  | none => .error (.badLookup table index)

/-- The keys that one lookup loads, writable ones first. -/
def load (tables : List LookupTable) (lookup : TableLookup) : Except MessageError LoadedKeys :=
  match LookupTable.addresses? tables lookup.table with
  | none => .error (.tableMissing lookup.table)
  | some addresses => do
    let writable ← lookup.writable.mapM (loadEntry lookup.table addresses)
    let readonly ← lookup.readonly.mapM (loadEntry lookup.table addresses)
    return ⟨writable, readonly⟩

/-- The keys that a message loads, given the contents of tables. -/
def loadedKeys (m : WalletMessage) (tables : List LookupTable) :
    Except MessageError LoadedKeys := do
  let parts ← m.lookups.mapM (load tables)
  return LoadedKeys.concat parts

/-- A message as instructions, given the contents of tables. -/
def decompile (m : WalletMessage) (tables : List LookupTable) :
    Except MessageError (List Instruction) := do
  let loaded ← m.loadedKeys tables
  (KeySpace.mk m.keys loaded).resolveAll m.header m.instructions

end WalletMessage

end Cosigner
