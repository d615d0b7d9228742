import Cosigner.Text.Digits

/-!
# JSON Numbers

A number is kept as it is written: its sign, the digits before and after the
point, and the exponent. Members that hold a natural number ask for one written
without point and exponent.

Whatever else is read has to be small enough for double precision, and that is
decided without long arithmetic. Digits count as long as they fit into 64 bits
together; a later digit before the point moves the point, and a later digit
behind it is dropped. The number of the digits that count is rounded to double
precision, so is the power of ten, and their product must not round to infinity.
Because of the three roundings, the numbers that pass are not quite those that
are nearest to a finite double.

## Main definitions

* `Json.Numeral`: A number as it is written.
* `Json.Numeral.natural?`: The value of a number written without sign, point and
    exponent.
* `nearestDouble`: A natural number rounded to double precision.
* `Json.Numeral.finite`: Whether a number is small enough.
-/

namespace Cosigner

/-- The nearest multiple of a unit; a tie goes to the even multiple. -/
def roundToUnit (unit n : Nat) : Nat :=
  if unit < 2 * (n % unit) ∨ unit = 2 * (n % unit) ∧ n / unit % 2 = 1 then
    unit * (n / unit + 1)
  else unit * (n / unit)

/-- A natural number rounded to double precision, that is, to 53 binary digits;
    how large the result is does not matter. -/
def nearestDouble (n : Nat) : Nat :=
  roundToUnit (Nat.pow 2 (n.log2 - 52)) n

/-- A number as it is written. Digits are given by their values. -/
structure Json.Numeral where
  /-- Whether a minus sign stands in front. -/
  negative : Bool
  /-- The digits before the point. -/
  whole : List Nat
  /-- The digits after the point, if there is one. -/
  fraction : Option (List Nat)
  /-- The exponent, if there is one: whether it is negative, and its digits. -/
  exponent : Option (Bool × List Nat)
  deriving DecidableEq

namespace Json.Numeral

/-- The value of a number written without sign, point and exponent. -/
def natural? (n : Numeral) : Option Nat :=
  if n.negative || n.fraction.isSome || n.exponent.isSome then none
  else some (Digits.toNat 10 n.whole)

/-- A natural number as it is written. -/
def ofNat (n : Nat) : Numeral :=
  ⟨false, if n = 0 then [0] else Digits.ofNat 10 n, none, none⟩

/-- Appends digits to a number as long as it fits into 64 bits. The second
    component says how many digits are left over. -/
def appendDigits (n : Nat) : List Nat → Nat × Nat
  | [] => (n, 0)
  | d :: ds => if 10 * n + d < UInt64.size then appendDigits (10 * n + d) ds else (n, ds.length + 1)

/-- The exponent as it is written. One that does not fit into 64 bits is cut
    off, which leaves it beyond every bound. -/
def writtenExponent (n : Numeral) : Int :=
  match n.exponent with
  | some (true, ds) => -((appendDigits 0 ds).1 : Int)
  | some (false, ds) => (appendDigits 0 ds).1
  | none => 0

/-- The digits that count, as one number, and the power of ten that it is to be
    multiplied by. -/
def scientific (n : Numeral) : Nat × Int :=
  let fraction := n.fraction.getD []
  let (whole, wholeRest) := appendDigits 0 n.whole
  let (digits, fractionRest) := appendDigits whole fraction
  (digits, n.writtenExponent + wholeRest - (fraction.length - fractionRest : Nat))

/-- The largest power of ten in double precision. -/
def maxPower : Int := 308

/-- The least size that rounds to an infinite number of double precision. -/
def infinityBound : Nat := 0x3fffffffffffff <<< 970

/-- Whether a number is small enough for double precision. -/
def finite (n : Numeral) : Bool :=
  let (digits, power) := n.scientific
  if digits = 0 ∨ power < 0 then true
  else
    power ≤ maxPower &&
      nearestDouble digits * nearestDouble (Nat.pow 10 power.toNat) < infinityBound

end Json.Numeral

end Cosigner
