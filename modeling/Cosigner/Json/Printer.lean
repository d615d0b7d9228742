import Cosigner.Json.Basic

/-!
# Writing JSON

The compact form: no blanks, members in the order in which they stand. In a
string only the quote, the backslash and control characters are escaped, with a
letter where JSON has one; all other characters stand for themselves.

## Main definitions

* `Json.ofText`, `Json.ofNat`: Leaves for a text and a number.
* `Json.ofFields`: An object with names given as text.
* `Json.print`: The compact form of a value.
-/

namespace Cosigner

namespace Json

/-- The digit of a hexadecimal value, as ASCII code. -/
def hexDigit (v : Nat) : UInt8 :=
  UInt8.ofNat (if v < 10 then 48 + v else 87 + v)

/-- A byte of a text as it stands in a string. -/
def escapeByte (b : UInt8) : Bytes :=
  if b = 34 ∨ b = 92 then [92, b]
  else if b = 8 then [92, 98]
  else if b = 9 then [92, 116]
  else if b = 10 then [92, 110]
  else if b = 12 then [92, 102]
  else if b = 13 then [92, 114]
  else if b < 32 then
    [92, 117, 48, 48, hexDigit (b.toNat / 16), hexDigit (b.toNat % 16)]
  else [b]

/-- The raw bytes of a string that stands for a text. -/
def escape (s : String) : Bytes :=
  (Utf8.encode s).flatMap escapeByte

/-- The string that stands for a text. -/
def ofText (s : String) : Json :=
  .string (escape s)

/-- The number that stands for a natural number. -/
def ofNat (n : Nat) : Json :=
  .number (.ofNat n)

/-- The value for something that may be absent. -/
def ofOption {α : Type} (f : α → Json) : Option α → Json
  | some a => f a
  | none => .null

/-- An object with names given as text. -/
def ofFields (fields : List (String × Json)) : Json :=
  .object (fields.map fun (name, value) => (escape name, value))

/-- Decimal digits as ASCII codes. -/
def printDigits (ds : List Nat) : Bytes :=
  ds.map fun d => UInt8.ofNat (48 + d)

/-- A number as it is written. -/
def Numeral.print (n : Numeral) : Bytes :=
  (if n.negative then [45] else []) ++ printDigits n.whole
    ++ (match n.fraction with
      | some ds => 46 :: printDigits ds
      | none => [])
    ++ (match n.exponent with
      | some (negative, ds) => 101 :: (if negative then [45] else []) ++ printDigits ds
      | none => [])

/-- A string between quotes. -/
def printString (raw : Bytes) : Bytes :=
  34 :: raw ++ [34]

mutual

/-- The compact form of a value. -/
def print : Json → Bytes
  | .null => [110, 117, 108, 108]
  | .bool true => [116, 114, 117, 101]
  | .bool false => [102, 97, 108, 115, 101]
  | .number n => n.print
  | .string raw => printString raw
  | .array [] => [91, 93]
  | .array (item :: rest) => 91 :: print item ++ printItems rest
  | .object [] => [123, 125]
  | .object ((name, value) :: rest) =>
    123 :: printString name ++ 58 :: print value ++ printMembers rest

/-- The items after the first one, each behind a comma, and the closing
    bracket. -/
def printItems : List Json → Bytes
  | [] => [93]
  | item :: rest => 44 :: print item ++ printItems rest

/-- The members after the first one, each behind a comma, and the closing
    brace. -/
def printMembers : List (Bytes × Json) → Bytes
  | [] => [125]
  | (name, value) :: rest => 44 :: printString name ++ 58 :: print value ++ printMembers rest

end

end Json

end Cosigner
