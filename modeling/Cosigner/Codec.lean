import Cosigner.Octets
import Cosigner.Text.Utf8

/-!
# Binary Codecs

A codec pairs the two directions of a byte layout. `encode` writes a value and
`decode` reads one from the front of a byte string and returns the bytes that
follow. Layouts are put together from smaller ones, so the two directions of a
compound layout are built by the same expression and cannot drift apart.

All layouts here are little-endian and self-delimiting: a list is preceded by
its length, an optional value by a byte that is 0 or 1, a choice by a tag.
Fields are read in the order in which they stand, and the first one that cannot
be read is the one reported.

A length is written in a fixed number of bytes, so a list longer than that can
count has no faithful form; the layouts that bound their lists say so where they
are used.

## Main definitions

* `Codec`: A layout in both directions.
* `Codec.Fault`: Why bytes do not decode.
* `Codec.octets`, `Codec.word`: Blocks and numbers.
* `Codec.flag`, `Codec.option`, `Codec.text`, `Codec.blob`, `Codec.listOf`: Layouts
    with bytes that some value may not have.
* `Codec.pair`, `Codec.imap`: Compound layouts.
* `Codec.decodeAll`: Reads a value that has to be the whole input.
-/

namespace Cosigner

/-- Why bytes do not decode. -/
inductive Codec.Fault where
  /-- `needed` bytes are due and `left` are left. -/
  | short (needed left : Nat)
  /-- A truth value that is neither 0 nor 1. -/
  | badFlag (byte : UInt8)
  /-- A presence byte that is neither 0 nor 1. -/
  | badPresence (byte : UInt8)
  /-- A tag that no alternative has. -/
  | badTag (byte : UInt8)
  /-- A text that is not UTF-8. -/
  | badText (fault : Utf8.Fault)
  /-- Bytes after the last field of a layout that has to fill its input. -/
  | trailing (count : Nat)
  deriving DecidableEq, Repr

/-- A layout in both directions. -/
structure Codec (α : Type) where
  /-- The bytes of a value. -/
  encode : α → Bytes
  /-- The value at the front of a byte string, and the bytes after it. -/
  decode : Bytes → Except Codec.Fault (α × Bytes)

namespace Codec

/-- Wording of a fault. -/
def Fault.message : Fault → String
  | .short _ _ => "Unexpected length of input"
  | .badFlag b => s!"Invalid bool representation: {b.toNat}"
  | .badPresence b =>
    s!"Invalid Option representation: {b.toNat}. The first byte must be 0 or 1"
  | .badTag b => s!"Unexpected variant tag: {b.toNat}"
  | .badText fault => fault.message
  | .trailing _ => "Not all bytes read"

/-- Wording of a fault in a message of `size` bytes, with its place. -/
def Fault.placedMessage (size : Nat) : Fault → String
  | .short needed left => s!"needed {needed} bytes at offset {size - left}, {left} left"
  | .trailing count => s!"{count} trailing bytes"
  | fault => fault.message

variable {α β : Type}

/-- A block of bytes as it stands. -/
def octets (n : Nat) : Codec (Octets n) where
  encode := Octets.toBytes
  decode bs :=
    if h : (bs.take n).length = n then .ok (⟨bs.take n, h⟩, bs.drop n)
    else .error (.short n bs.length)

/-- A layout read and written through another type. -/
def imap (c : Codec α) (into : α → β) (back : β → α) : Codec β where
  encode b := c.encode (back b)
  decode bs := do
    let (a, rest) ← c.decode bs
    return (into a, rest)

/-- A number of `width` bytes. -/
def word (width : Nat) (ofNat : Nat → α) (toNat : α → Nat) : Codec α :=
  (octets width).imap (fun o => ofNat (ofLE o.toBytes))
    fun a => ⟨leBytes width (toNat a), length_leBytes width (toNat a)⟩

/-- An 8-bit number. -/
def u8 : Codec UInt8 := word 1 UInt8.ofNat UInt8.toNat

/-- A 16-bit number. -/
def u16 : Codec UInt16 := word 2 UInt16.ofNat UInt16.toNat

/-- A 32-bit number. -/
def u32 : Codec UInt32 := word 4 UInt32.ofNat UInt32.toNat

/-- A 64-bit number. -/
def u64 : Codec UInt64 := word 8 UInt64.ofNat UInt64.toNat

/-- A 128-bit number. -/
def u128 : Codec (BitVec 128) := word 16 (BitVec.ofNat 128) BitVec.toNat

/-- The number of entries of a list, in `width` bytes. -/
def count (width : Nat) : Codec Nat := word width id id

/-- One value after another. -/
def pair (a : Codec α) (b : Codec β) : Codec (α × β) where
  encode p := a.encode p.1 ++ b.encode p.2
  decode bs := do
    let (x, rest) ← a.decode bs
    let (y, rest) ← b.decode rest
    return ((x, y), rest)

/-- A truth value: one byte, 0 or 1. -/
def flag : Codec Bool where
  encode b := [if b then 1 else 0]
  decode bs := do
    let (b, rest) ← u8.decode bs
    if b = 0 then return (false, rest)
    else if b = 1 then return (true, rest)
    else throw (.badFlag b)

/-- A value that may be absent: the byte 0, or the byte 1 and the value. -/
def option (c : Codec α) : Codec (Option α) where
  encode
    | none => [0]
    | some a => 1 :: c.encode a
  decode bs := do
    let (b, rest) ← u8.decode bs
    if b = 0 then return (none, rest)
    else if b = 1 then
      let (a, rest) ← c.decode rest
      return (some a, rest)
    else throw (.badPresence b)

/-- Reads `n` values in a row. -/
def decodeMany (c : Codec α) : Nat → Bytes → Except Fault (List α × Bytes)
  | 0, bs => .ok ([], bs)
  | n + 1, bs => do
    let (a, rest) ← c.decode bs
    let (as, rest) ← decodeMany c n rest
    return (a :: as, rest)

/-- A list: its length in `width` bytes, then its entries. -/
def listOf (width : Nat) (c : Codec α) : Codec (List α) where
  encode as := (count width).encode as.length ++ as.flatMap c.encode
  decode bs := do
    let (n, rest) ← (count width).decode bs
    c.decodeMany n rest

/-- A byte string: its length in `width` bytes, then its bytes. -/
def blob (width : Nat) : Codec Bytes where
  encode as := (count width).encode as.length ++ as
  decode bs := do
    let (n, rest) ← (count width).decode bs
    let (block, rest) ← (octets n).decode rest
    return (block.toBytes, rest)

/-- A text: its length in 4 bytes, then its UTF-8 bytes. -/
def text : Codec String where
  encode s := (blob 4).encode (Utf8.encode s)
  decode bs := do
    let (block, rest) ← (blob 4).decode bs
    match Utf8.decode block with
    | .ok s => return (s, rest)
    | .error fault => throw (.badText fault)

/-- Reads a value that has to be the whole input. -/
def decodeAll (c : Codec α) (bs : Bytes) : Except Fault α := do
  let (a, rest) ← c.decode bs
  if rest.isEmpty then return a else throw (.trailing rest.length)

end Codec

end Cosigner
