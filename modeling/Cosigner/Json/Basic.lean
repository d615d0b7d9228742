import Cosigner.Json.Numeral
import Cosigner.Text.Utf8

/-!
# JSON Values

A JSON text is kept as a tree whose leaves are still text. A string is the bytes
between its quotes, a number its digits. What a leaf means is worked out only
where somebody asks for it, and so a member that nobody reads may hold a string
that is no text or a number that no type can hold.

`readable` says that every leaf does have a meaning and that containers are not
nested too deeply. It is asked of those parts of a text that are taken in as a
whole before anyone looks at their members.

## Main definitions

* `Json`: A value.
* `Json.textOf?`: The text of a string.
* `Json.readable`: Whether every part of a value has a meaning.
-/

namespace Cosigner

/-- A JSON value. -/
inductive Json where
  /-- The word `null`. -/
  | null
  /-- A truth value. -/
  | bool (b : Bool)
  /-- A number. -/
  | number (n : Json.Numeral)
  /-- A string: the bytes between its quotes. -/
  | string (raw : Bytes)
  /-- An array. -/
  | array (items : List Json)
  /-- An object: names, as the bytes between their quotes, with values. -/
  | object (members : List (Bytes × Json))

namespace Json

/-- The value of a hexadecimal digit, given by its ASCII code. -/
def hexValue? (b : UInt8) : Option Nat :=
  if 48 ≤ b ∧ b ≤ 57 then some (b.toNat - 48)
  else if 97 ≤ b ∧ b ≤ 102 then some (b.toNat - 87)
  else if 65 ≤ b ∧ b ≤ 70 then some (b.toNat - 55)
  else none

/-- The number of four hexadecimal digits. -/
def hexNumber? (a b c d : UInt8) : Option Nat := do
  return 4096 * (← hexValue? a) + 256 * (← hexValue? b) + 16 * (← hexValue? c) + (← hexValue? d)

/-- The byte that a one-letter escape stands for. -/
def shortEscape? (b : UInt8) : Option UInt8 :=
  if b = 34 ∨ b = 92 ∨ b = 47 then some b
  else if b = 98 then some 8
  else if b = 102 then some 12
  else if b = 110 then some 10
  else if b = 114 then some 13
  else if b = 116 then some 9
  else none

/-- The UTF-8 bytes of a code point. -/
def codePoint (n : Nat) : Bytes :=
  String.utf8EncodeChar (Char.ofNat n)

/-- The bytes that the raw bytes of a string stand for. Two escapes in a row
    name one character if they are a high and a low surrogate; a surrogate on
    its own names none. -/
def unescape? : Bytes → Option Bytes
  | [] => some []
  | 92 :: 117 :: a :: b :: c :: d :: rest => do
    let high ← hexNumber? a b c d
    if high < 0xD800 ∨ 0xDFFF < high then
      return codePoint high ++ (← unescape? rest)
    else if 0xDBFF < high then none
    else
      match rest with
      | 92 :: 117 :: e :: f :: g :: h :: rest => do
        let low ← hexNumber? e f g h
        if 0xDC00 ≤ low ∧ low ≤ 0xDFFF then
          let point := 0x10000 + 1024 * (high - 0xD800) + (low - 0xDC00)
          return codePoint point ++ (← unescape? rest)
        else none
      | _ => none
  | 92 :: b :: rest => do
    return (← shortEscape? b) :: (← unescape? rest)
  | b :: rest => do
    return b :: (← unescape? rest)

/-- The text of a string, given by the bytes between its quotes. -/
def textOf? (raw : Bytes) : Option String := do
  Utf8.decode? (← unescape? raw)

mutual

/-- Whether every part of a value has a meaning: strings are text, numbers are
    finite, and at most `levels` containers stand inside each other. -/
def readable (levels : Nat) : Json → Bool
  | .null => true
  | .bool _ => true
  | .number n => n.finite
  | .string raw => (textOf? raw).isSome
  | .array items => 0 < levels && readableItems (levels - 1) items
  | .object members => 0 < levels && readableMembers (levels - 1) members

/-- Whether every item of an array is readable. -/
def readableItems (levels : Nat) : List Json → Bool
  | [] => true
  | item :: rest => readable levels item && readableItems levels rest

/-- Whether every member of an object is readable. -/
def readableMembers (levels : Nat) : List (Bytes × Json) → Bool
  | [] => true
  | (name, value) :: rest =>
    (textOf? name).isSome && readable levels value && readableMembers levels rest

end

end Json

end Cosigner
