/-!
# Byte Strings and Blocks

Everything the co-signer reads or writes is a string of bytes: transactions,
account data, signatures, hashes. Two notions of one are enough.

`Bytes` is a string of any length. `Octets n` is a block of exactly `n` bytes;
addresses, digests and public keys are blocks, and carrying the length in the
type means that no later function has to ask for it again.

Numbers are written into byte strings in one of two orders. The wire forms are
little-endian, the hash functions and the curves big-endian.

## Main definitions

* `Bytes`: A string of bytes.
* `Octets`: A block of a fixed number of bytes.
* `leBytes`, `ofLE`: Little-endian numbers.
* `beBytes`, `ofBE`: Big-endian numbers.

## Theorems

* `length_leBytes`, `length_beBytes`: A number is written in the width asked
    for, whatever its size.
-/

namespace Cosigner

/-- A string of bytes. -/
abbrev Bytes := List UInt8

/-- The low `8 * width` bits of a number, least significant byte first. -/
def leBytes : Nat → Nat → Bytes
  | 0, _ => []
  | width + 1, n => UInt8.ofNat n :: leBytes width (n / 256)

/-- The number that a byte string spells, least significant byte first. -/
def ofLE : Bytes → Nat
  | [] => 0
  | b :: rest => b.toNat + 256 * ofLE rest

/-- The low `8 * width` bits of a number, most significant byte first. -/
def beBytes (width n : Nat) : Bytes :=
  (leBytes width n).reverse

/-- The number that a byte string spells, most significant byte first. -/
def ofBE (bs : Bytes) : Nat :=
  bs.foldl (fun n b => 256 * n + b.toNat) 0

@[simp] theorem length_leBytes (width n : Nat) : (leBytes width n).length = width := by
  induction width generalizing n with
  | zero => rfl
  | succ width ih => simp only [leBytes, List.length_cons, ih]

@[simp] theorem length_beBytes (width n : Nat) : (beBytes width n).length = width := by
  simp only [beBytes, List.length_reverse, length_leBytes]

/-- A block of exactly `n` bytes. -/
structure Octets (n : Nat) where
  /-- The bytes of the block. -/
  toBytes : Bytes
  /-- There are `n` of them. -/
  length_eq : toBytes.length = n
  deriving DecidableEq

namespace Octets

/-- The block holding a byte string, if the string has the block's length. -/
def ofBytes? (n : Nat) (bs : Bytes) : Option (Octets n) :=
  if h : bs.length = n then some ⟨bs, h⟩ else none

/-- The block holding one byte throughout. -/
def replicate (n : Nat) (b : UInt8) : Octets n :=
  ⟨List.replicate n b, List.length_replicate⟩

/-- A number as a big-endian block. -/
def ofNatBE (n value : Nat) : Octets n :=
  ⟨beBytes n value, length_beBytes n value⟩

/-- The block spelled by two blocks in a row. -/
def append {m n : Nat} (a : Octets m) (b : Octets n) : Octets (m + n) :=
  ⟨a.toBytes ++ b.toBytes, by rw [List.length_append, a.length_eq, b.length_eq]⟩

/-- The big-endian number that a block spells. -/
def toNatBE {n : Nat} (o : Octets n) : Nat :=
  ofBE o.toBytes

instance (n : Nat) : Inhabited (Octets n) :=
  ⟨replicate n 0⟩

end Octets

end Cosigner
