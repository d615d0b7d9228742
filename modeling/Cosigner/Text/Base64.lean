import Cosigner.Octets
import Cosigner.Text.Utf8

/-!
# Base 64 Text

Three bytes are written as four symbols of six bits. A last group of one or two
bytes takes two or three symbols, and the bits that such a group leaves over
have to be zero, so every byte string has one spelling only.

Two alphabets are in use. Request payloads take the standard one, with its last
group filled up by `=`. Web keys, tokens and WebAuthn fields take the url-safe
one without filling; there `decodeUrl` first drops every `=` at the end, since
some clients send them.

A refusal names the first thing wrong with the text, in the order `decode`
looks: a stray byte, a symbol left alone in the last group, missing filling,
bits left over. A text whose length is one past a multiple of four has its last
byte looked at before all others, which is where a stray line end shows.

## Main definitions

* `Base64.Fault`: Why text is refused.
* `Base64.encodeUrl`, `Base64.decodeUrl`: The url-safe form.
* `Base64.decodeStandard`: The standard form with mandatory filling.
-/

namespace Cosigner

namespace Base64

/-- Why text is refused. Offsets count bytes from the start of the text. -/
inductive Fault where
  /-- A byte that is no symbol of the alphabet. -/
  | strayByte (byte : UInt8) (offset : Nat)
  /-- A last group of one symbol, which holds no whole byte; `length` symbols
      were read. -/
  | loneSymbol (length : Nat)
  /-- A last group that is not filled up. -/
  | unfilled
  /-- A last symbol with bits that belong to no byte. -/
  | unusedBits (byte : UInt8) (offset : Nat)
  deriving DecidableEq, Repr

/-- Wording of a fault. -/
def Fault.message : Fault → String
  | .strayByte byte offset => s!"Invalid symbol {byte.toNat}, offset {offset}."
  | .loneSymbol length => s!"Invalid input length: {length}"
  | .unfilled => "Invalid padding"
  | .unusedBits byte offset => s!"Invalid last symbol {byte.toNat}, offset {offset}."

/-- The two symbols in which the alphabets differ. -/
structure Alphabet where
  /-- The symbol of value 62. -/
  symbol62 : UInt8
  /-- The symbol of value 63. -/
  symbol63 : UInt8

/-- The standard alphabet ends in `+` and `/`. -/
def Alphabet.standard : Alphabet := ⟨43, 47⟩

/-- The url-safe alphabet ends in `-` and `_`. -/
def Alphabet.urlSafe : Alphabet := ⟨45, 95⟩

/-- The byte that fills up a last group. -/
def filler : UInt8 := 61

/-- The symbol of a six-bit value. -/
def Alphabet.symbol (a : Alphabet) (v : Nat) : UInt8 :=
  if v < 26 then UInt8.ofNat (65 + v)
  else if v < 52 then UInt8.ofNat (97 + (v - 26))
  else if v < 62 then UInt8.ofNat (48 + (v - 52))
  else if v = 62 then a.symbol62
  else a.symbol63

/-- The value of a symbol. -/
def Alphabet.value? (a : Alphabet) (b : UInt8) : Option Nat :=
  if 65 ≤ b ∧ b ≤ 90 then some (b.toNat - 65)
  else if 97 ≤ b ∧ b ≤ 122 then some (b.toNat - 97 + 26)
  else if 48 ≤ b ∧ b ≤ 57 then some (b.toNat - 48 + 52)
  else if b = a.symbol62 then some 62
  else if b = a.symbol63 then some 63
  else none

/-- Whether a byte is a symbol of the alphabet. -/
def Alphabet.has (a : Alphabet) (b : UInt8) : Bool :=
  (a.value? b).isSome

/-- Bytes regrouped into six-bit values, a short last group filled with zero
    bits. -/
def sextets : Bytes → List Nat
  | x :: y :: z :: rest =>
    x.toNat / 4 :: (x.toNat % 4 * 16 + y.toNat / 16) ::
      (y.toNat % 16 * 4 + z.toNat / 64) :: z.toNat % 64 :: sextets rest
  | [x, y] => [x.toNat / 4, x.toNat % 4 * 16 + y.toNat / 16, y.toNat % 16 * 4]
  | [x] => [x.toNat / 4, x.toNat % 4 * 16]
  | [] => []

/-- Six-bit values regrouped into bytes, bits left over dropped. -/
def bytes : List Nat → Bytes
  | a :: b :: c :: d :: rest =>
    UInt8.ofNat (a * 4 + b / 16) :: UInt8.ofNat (b % 16 * 16 + c / 4) ::
      UInt8.ofNat (c % 4 * 64 + d) :: bytes rest
  | [a, b, c] => [UInt8.ofNat (a * 4 + b / 16), UInt8.ofNat (b % 16 * 16 + c / 4)]
  | [a, b] => [UInt8.ofNat (a * 4 + b / 16)]
  | _ => []

/-- The length of the text in front of its last group, which is whole if it
    can be. -/
def lastGroupStart (length : Nat) : Nat :=
  if length % 4 = 0 then length - 4 else length - length % 4

/-- The first byte that is no symbol, with its offset. -/
def firstStray? (a : Alphabet) (text : Bytes) : Option Fault :=
  (text.findIdx? (fun b => !a.has b)).map fun i => .strayByte (text.getD i 0) i

/-- A byte at the very end that no longer text would allow either. -/
def strayEnd? (a : Alphabet) (text : Bytes) : Option Fault :=
  match text.getLast? with
  | some b =>
    if text.length % 4 = 1 ∧ b ≠ filler ∧ ¬ a.has b then
      some (.strayByte b (text.length - 1))
    else none
  | none => none

/-- The symbols and the filling of a last group that starts at `offset`. Filling
    is allowed after two symbols or more and has to end the text. -/
def lastGroup (a : Alphabet) (offset : Nat) (group : Bytes) : Except Fault (Bytes × Nat) :=
  let symbols := group.takeWhile a.has
  match group.dropWhile a.has with
  | [] => .ok (symbols, 0)
  | b :: rest =>
    if b = filler ∧ 2 ≤ symbols.length ∧ rest.all (· == filler) then
      .ok (symbols, rest.length + 1)
    else
      .error (.strayByte b (offset + symbols.length))

/-- The bits of a last symbol that belong to no byte, for a last group of
    `count` symbols. -/
def leftOver (count value : Nat) : Nat :=
  if count = 2 then value % 16 else if count = 3 then value % 4 else 0

/-- Reads text of an alphabet; `filled` says whether a last group has to be
    filled up to four symbols or must not be filled at all. -/
def decode (a : Alphabet) (filled : Bool) (text : Bytes) : Except Fault Bytes := do
  if let some fault := strayEnd? a text then throw fault
  let start := lastGroupStart text.length
  let body := text.take start
  if let some fault := firstStray? a body then throw fault
  let (symbols, filling) ← lastGroup a start (text.drop start)
  if text ≠ [] ∧ symbols.length < 2 then throw (.loneSymbol (start + symbols.length))
  if filled then
    if (symbols.length + filling) % 4 ≠ 0 then throw .unfilled
  else
    if filling ≠ 0 then throw .unfilled
  let values := symbols.filterMap a.value?
  if leftOver values.length (values.getLastD 0) ≠ 0 then
    throw (.unusedBits (symbols.getLastD 0) (start + symbols.length - 1))
  return bytes (body.filterMap a.value? ++ values)

/-- Bytes as url-safe symbols without filling. -/
def urlSymbols (bs : Bytes) : Bytes :=
  (sextets bs).map Alphabet.urlSafe.symbol

/-- Bytes as url-safe text without filling. -/
def encodeUrl (bs : Bytes) : String :=
  String.ofList ((urlSymbols bs).map fun b => Char.ofNat b.toNat)

/-- A byte string without the fillers at its end. -/
def dropFilling (text : Bytes) : Bytes :=
  (text.reverse.dropWhile (· == filler)).reverse

/-- Url-safe text as bytes, fillers at its end ignored. -/
def decodeUrlBytes (text : Bytes) : Except Fault Bytes :=
  decode .urlSafe false (dropFilling text)

/-- Url-safe text as bytes, fillers at its end ignored. -/
def decodeUrl (text : String) : Except Fault Bytes :=
  decodeUrlBytes (Utf8.encode text)

/-- Standard text with mandatory filling as bytes. -/
def decodeStandard (text : String) : Except Fault Bytes :=
  decode .standard true (Utf8.encode text)

end Base64

end Cosigner
