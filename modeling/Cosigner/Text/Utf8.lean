import Cosigner.Octets

/-!
# UTF-8 Text

Text arrives as bytes and is kept as `String`. Bytes that are no text are
refused with the place where they stop being text: the number of bytes that
still are, and either the length of the ill-formed piece that follows or the
fact that the input ends inside a character.

The ill-formed piece is the longest start of a character that the bytes hold,
one byte if they hold none. `Scan` finds it in a single pass. Between two
characters it only counts; inside a character it remembers which bytes may come
next, which is where the forbidden forms (overlong ones, surrogates, numbers
past the last code point) are kept out.

## Main definitions

* `Utf8.Fault`: Where and how bytes stop being text.
* `Utf8.fault?`: The first fault of a byte string, if it has one.
* `Utf8.decode`: Bytes as text.
* `Utf8.encode`: Text as bytes.
-/

namespace Cosigner

namespace Utf8

/-- Where bytes stop being text. -/
inductive Fault where
  /-- `length` bytes after the first `index` ones form no character. -/
  | illFormed (index length : Nat)
  /-- The input ends inside the character after the first `index` bytes. -/
  | incomplete (index : Nat)
  deriving DecidableEq, Repr

/-- Wording of a fault. -/
def Fault.message : Fault → String
  | .illFormed index length =>
    s!"invalid utf-8 sequence of {length} bytes from index {index}"
  | .incomplete index => s!"incomplete utf-8 byte sequence from index {index}"

/-- Where the scan stands between two bytes. -/
inductive Scan where
  /-- Between characters, after `index` bytes. -/
  | between (index : Nat)
  /-- `seen` bytes into the character at `index`: `owed` more are due, the next
      of them from `low` to `high`. -/
  | inside (index seen owed : Nat) (low high : UInt8)

/-- The scan after the first byte of a character, or nothing if no character
    starts with that byte. -/
def Scan.start (index : Nat) (b : UInt8) : Option Scan :=
  if b ≤ 0x7F then some (.between (index + 1))
  else if 0xC2 ≤ b ∧ b ≤ 0xDF then some (.inside index 1 1 0x80 0xBF)
  else if b = 0xE0 then some (.inside index 1 2 0xA0 0xBF)
  else if b = 0xED then some (.inside index 1 2 0x80 0x9F)
  else if 0xE1 ≤ b ∧ b ≤ 0xEF then some (.inside index 1 2 0x80 0xBF)
  else if b = 0xF0 then some (.inside index 1 3 0x90 0xBF)
  else if 0xF1 ≤ b ∧ b ≤ 0xF3 then some (.inside index 1 3 0x80 0xBF)
  else if b = 0xF4 then some (.inside index 1 3 0x80 0x8F)
  else none

/-- The first fault of the bytes that follow a scan. -/
def Scan.fault? : Scan → Bytes → Option Fault
  | .between _, [] => none
  | .inside index _ _ _ _, [] => some (.incomplete index)
  | .between index, b :: rest =>
    match Scan.start index b with
    | some scan => scan.fault? rest
    | none => some (.illFormed index 1)
  | .inside index seen owed low high, b :: rest =>
    if low ≤ b ∧ b ≤ high then
      if owed ≤ 1 then (Scan.between (index + seen + 1)).fault? rest
      else (Scan.inside index (seen + 1) (owed - 1) 0x80 0xBF).fault? rest
    else some (.illFormed index seen)

/-- The first fault of a byte string, if it has one. -/
def fault? (bs : Bytes) : Option Fault :=
  (Scan.between 0).fault? bs

/-- Text as bytes. -/
def encode (s : String) : Bytes :=
  s.toByteArray.data.toList

/-- Bytes as text. Text is exactly what `encode` produces, so the answer is
    decided by validity; the scan only says where a refusal points. -/
def decode (bs : Bytes) : Except Fault String :=
  if h : (ByteArray.mk bs.toArray).IsValidUTF8 then
    .ok (String.fromUTF8 ⟨bs.toArray⟩ h)
  else
    .error ((fault? bs).getD (.incomplete bs.length))

/-- Bytes as text, without the place of a fault. -/
def decode? (bs : Bytes) : Option String :=
  (decode bs).toOption

end Utf8

end Cosigner
