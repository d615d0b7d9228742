import Cosigner.Text.Digits

/-!
# Base 58 Text

Addresses and slot hashes are shown in base 58: the bytes are read as one
big-endian number and written with 58 letters and digits, leaving out those
that look alike. Leading zero bytes have no digits in that number, so each is
written as one leading `1`, the digit of value zero.

## Main definitions

* `Base58.encode`: Bytes as text.
* `Base58.decode?`: Text as bytes, or nothing if some character is no digit.
-/

namespace Cosigner

namespace Base58

/-- The digits, in the order of their values. -/
def alphabet : List Char :=
  "123456789ABCDEFGHJKLMNPQRSTUVWXYZabcdefghijkmnopqrstuvwxyz".toList

/-- The digit of a value below 58. -/
def digit (value : Nat) : Char :=
  alphabet.getD value '1'

/-- The value of a digit. -/
def value? (c : Char) : Option Nat :=
  alphabet.idxOf? c

/-- Bytes as base 58 text. -/
def encode (bs : Bytes) : String :=
  let zeros := bs.takeWhile (· == 0)
  String.ofList (zeros.map (fun _ => '1') ++ (Digits.ofNat 58 (ofBE bs)).map digit)

/-- Base 58 text as bytes, or nothing if some character is no digit. -/
def decode? (s : String) : Option Bytes :=
  let zeros := s.toList.takeWhile (· == '1')
  (s.toList.mapM value?).map fun ds =>
    zeros.map (fun _ => 0) ++ (Digits.ofNat 256 (Digits.toNat 58 ds)).map UInt8.ofNat

end Base58

end Cosigner
