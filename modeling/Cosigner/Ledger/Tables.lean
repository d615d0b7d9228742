import Cosigner.Ledger.Query

/-!
# Lookup Tables on Chain

The account of a lookup table holds a header of 56 bytes and then its entries,
32 bytes each. The header says whether the account has been set up at all, and
some fields that the co-signer only checks for their form.

Tables are resolved as a set. Every table is read once, in ascending order of
addresses, except the project's own table, whose contents are fixed and which is
never read.

## Main definitions

* `LookupTable.ofAccountData`: Reads the entries from the data of an account.
* `AccountStore`: The accounts that a node answers with.
* `resolveTables`: The contents of tables.
-/

namespace Cosigner

/-- The accounts that a node answers with: their data, if they exist, or a
    failure to read. -/
abbrev AccountStore := Address → Except String (Option Bytes)

namespace LookupTable

/-- Why the data of an account is no lookup table. -/
inductive AccountFault where
  /-- The account has not been set up. -/
  | unset
  /-- The data has another form. -/
  | malformed
  deriving DecidableEq, Repr

/-- Wording of the fault. -/
def AccountFault.message : AccountFault → String
  | .unset => "instruction requires an initialized account"
  | .malformed => "invalid account data for instruction"

/-- The length of the header. -/
def headerSize : Nat := 56

/-- The state that every account is in before it is set up. -/
def unsetState : UInt32 := 0

/-- The state of a table that has been set up. -/
def tableState : UInt32 := 1

/-- The fields of a header: its state, the slots of deactivation and of the last
    extension, where that extension started, and who may change the table. -/
def header : Codec (UInt32 × UInt64 × UInt64 × UInt8 × Option Address) :=
  Codec.u32.pair (Codec.u64.pair (Codec.u64.pair (Codec.u8.pair
    (Codec.option (Codec.octets 32)))))

/-- The addresses that a byte string holds, if its length is right. -/
def addressesOf? (bs : Bytes) : Option (List Address) :=
  if bs.isEmpty then some []
  else if h : 32 ≤ bs.length then do
    let first : Address := ⟨bs.take 32, by rw [List.length_take]; omega⟩
    return first :: (← addressesOf? (bs.drop 32))
  else none
termination_by bs.length
decreasing_by rw [List.length_drop]; omega

/-- The entries of a table that has been set up. -/
def entries (data : Bytes) : Except AccountFault (List Address) :=
  match header.decode data with
  | .error _ => .error .malformed
  | .ok ((state, _), _) =>
    if state = tableState ∧ headerSize ≤ data.length then
      match addressesOf? (data.drop headerSize) with
      | some addresses => .ok addresses
      | none => .error .malformed
    else .error .malformed

/-- Reads the entries of a table from the data of its account. -/
def ofAccountData (data : Bytes) : Except AccountFault (List Address) :=
  match Codec.u32.decode data with
  | .error _ => .error .malformed
  | .ok (state, _) => if state = unsetState then .error .unset else entries data

end LookupTable

/-- The contents of one table. -/
def resolveTable (accounts : AccountStore) (table : Address) : Query LookupTable :=
  if table = Program.pinnedTable then
    pure ⟨table, Program.pinnedAddresses⟩
  else
    .ask (.account table) <|
      match accounts table with
      | .error reason => .error (.connection reason)
      | .ok none => .error (.missingTable table)
      | .ok (some data) =>
        match LookupTable.ofAccountData data with
        | .error fault => .error (.malformedInstruction (.badTable table fault.message))
        | .ok addresses => .ok ⟨table, addresses⟩

/-- The contents of tables, in ascending order of addresses. -/
def resolveTables (accounts : AccountStore) (tables : List Address) :
    Query (List LookupTable) :=
  .forAll (Address.sortedSet tables) (resolveTable accounts)

end Cosigner
