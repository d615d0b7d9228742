import Cosigner.Octets

/-!
# Powers and Multiples

Both signature schemes raise field elements to large powers and take large
multiples of curve points. Either is done by halving the exponent: from the
result for `n / 2` the one for `n` takes one doubling and, for an odd `n`, one
more step. The number of halvings is fixed beforehand, so the recursion is on
that number and needs no argument about its end.

## Main definitions

* `iterateBits`: The `n`-fold combination of an element with itself, for a bounded `n`.
* `iterate`: The same for any `n`.
-/

namespace Cosigner

/-- The `n`-fold combination of `x` with itself, for `n` below `2 ^ bits`. -/
@[specialize] def iterateBits {α : Type} (combine : α → α → α) (unit x : α) : Nat → Nat → α
  | 0, _ => unit
  | bits + 1, n =>
    let half := iterateBits combine unit x bits (n / 2)
    let twice := combine half half
    if n % 2 = 1 then combine twice x else twice

/-- The `n`-fold combination of `x` with itself. -/
@[specialize] def iterate {α : Type} (combine : α → α → α) (unit x : α) (n : Nat) : α :=
  iterateBits combine unit x (n.log2 + 1) n

end Cosigner
