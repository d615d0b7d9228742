import Cosigner.Octets

/-!
# Positional Numbers

Numbers written with digits in some base: base 58 addresses, decimal numbers in
JSON and in configuration. Digits are kept as their values, most significant
first, and zero has none; a format that shows zero as a digit adds it itself.

## Main definitions

* `Digits.ofNat`, `Digits.toNat`: The digits of a number, and back.
* `Digits.readBounded`: Reads a decimal number below a bound.
-/

namespace Cosigner

namespace Digits

/-- The digits of a number in some base above 1, in front of `tail`. -/
def ofNatOnto (base : Nat) (n : Nat) (tail : List Nat) : List Nat :=
  if _ : n = 0 ∨ base < 2 then tail
  else ofNatOnto base (n / base) (n % base :: tail)
termination_by n
decreasing_by exact Nat.div_lt_self (by omega) (by omega)

/-- The digits of a number in some base above 1. -/
def ofNat (base n : Nat) : List Nat :=
  ofNatOnto base n []

/-- The number with the given digits. -/
def toNat (base : Nat) (ds : List Nat) : Nat :=
  ds.foldl (fun n d => base * n + d) 0

/-- The value of a decimal digit, given by its ASCII code. -/
def decimal? (b : UInt8) : Option Nat :=
  if 48 ≤ b ∧ b ≤ 57 then some (b.toNat - 48) else none

/-- Why text is no number. -/
inductive ReadError where
  /-- There is no text at all. -/
  | empty
  /-- Some character is no digit. -/
  | badDigit
  /-- The number is too large for its type. -/
  | tooLarge
  deriving DecidableEq, Repr

/-- Wording of the error. -/
def ReadError.message : ReadError → String
  | .empty => "cannot parse integer from empty string"
  | .badDigit => "invalid digit found in string"
  | .tooLarge => "number too large to fit in target type"

/-- Adds decimal digits to a number as long as it stays below a bound. The first
    character that breaks off decides the error, whatever comes after it. -/
def accumulate (bound : Nat) : Nat → Bytes → Except ReadError Nat
  | n, [] => .ok n
  | n, b :: rest =>
    match decimal? b with
    | none => .error .badDigit
    | some d =>
      if 10 * n + d < bound then accumulate bound (10 * n + d) rest else .error .tooLarge

/-- Reads a decimal number below a bound: digits, with a plus sign in front or
    without. A sign alone is no number. -/
def readBounded (bound : Nat) (text : Bytes) : Except ReadError Nat :=
  match text with
  | [] => .error .empty
  | [b] => if b = 43 ∨ b = 45 then .error .badDigit else accumulate bound 0 [b]
  | b :: rest => accumulate bound 0 (if b = 43 then rest else b :: rest)

end Digits

end Cosigner
