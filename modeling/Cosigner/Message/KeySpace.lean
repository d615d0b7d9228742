import Cosigner.Message.Basic

/-!
# The Flat Sequence of Keys

`KeySpace` puts the three segments of a message's keys one after another: the
carried keys, the keys loaded writable and the keys loaded readonly. Everything
about places is said through the one list `toList`, and a key that occurs more
than once is named by its first place.

The two conversions of instructions live here. `index` replaces addresses by
places and `resolve` goes back; going back also gives every account its role,
which for a carried key is the header's and for a loaded key depends on the
segment alone.

## Main definitions

* `KeySpace.toList`: All keys in the order of their places.
* `KeySpace.indexAll`: Instructions with places for addresses.
* `KeySpace.resolveAll`: Instructions with addresses for places.
-/

namespace Cosigner

/-- The keys of a message, in three segments. -/
structure KeySpace where
  /-- The keys that the message carries. -/
  carried : List Address
  /-- The keys loaded from tables. -/
  loaded : LoadedKeys

namespace KeySpace

/-- The number of places that a byte can name. -/
def capacity : Nat := 256

/-- All keys in the order of their places. -/
def toList (s : KeySpace) : List Address :=
  s.carried ++ s.loaded.toList

/-- The number of keys. -/
def length (s : KeySpace) : Nat :=
  s.carried.length + s.loaded.length

/-- The key at a place. -/
def get? (s : KeySpace) (place : Nat) : Option Address :=
  s.toList[place]?

/-- The first place of a key. -/
def placeOf (s : KeySpace) (key : Address) : Except MessageError UInt8 :=
  match s.toList.idxOf? key with
  | some place => .ok (UInt8.ofNat place)
  | none => .error (.unknownKey key)

/-- An instruction with places for addresses, accounts looked up before the
    program. -/
def index (s : KeySpace) (ix : Instruction) : Except MessageError IndexedInstruction := do
  let accounts ← ix.accounts.mapM fun ref => s.placeOf ref.key
  let program ← s.placeOf ix.program
  return ⟨program, accounts, ix.data⟩

/-- Instructions with places for addresses. -/
def indexAll (s : KeySpace) (ixs : List Instruction) :
    Except MessageError (List IndexedInstruction) :=
  if capacity < s.length then .error .indexOverflow
  else ixs.mapM s.index

/-- The role of the key at a place. -/
def role (s : KeySpace) (header : Header) (place : Nat) : Role :=
  if place < s.carried.length then header.role place
  else ⟨false, place - s.carried.length < s.loaded.writable.length⟩

/-- The key at a place. -/
def keyAt (s : KeySpace) (place : UInt8) : Except MessageError Address :=
  match s.get? place.toNat with
  | some key => .ok key
  | none => .error (.badIndex place)

/-- The key at a place, with its role. -/
def refAt (s : KeySpace) (header : Header) (place : UInt8) : Except MessageError AccountRef := do
  let key ← s.keyAt place
  return ⟨key, s.role header place.toNat⟩

/-- An instruction with addresses for places. -/
def resolve (s : KeySpace) (header : Header) (ix : IndexedInstruction) :
    Except MessageError Instruction := do
  let program ← s.keyAt ix.program
  let accounts ← ix.accounts.mapM (s.refAt header)
  return ⟨program, accounts, ix.data⟩

/-- Instructions with addresses for places. -/
def resolveAll (s : KeySpace) (header : Header) (ixs : List IndexedInstruction) :
    Except MessageError (List Instruction) :=
  ixs.mapM (s.resolve header)

end KeySpace

end Cosigner
