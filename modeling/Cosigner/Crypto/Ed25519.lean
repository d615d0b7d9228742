import Cosigner.Crypto.Modular
import Cosigner.Crypto.Sha2

/-!
# Ed25519

The Edwards curve `y² - x² = 1 + d x² y²` over the field with `2²⁵⁵ - 19`
elements serves twice. Keys of the type `OKP` sign with it, and an address
derived for a program must not be one of its points, so that nobody can hold a
key for it.

A point is written as its second coordinate with the parity of the first one in
the top bit. Reading is lenient: the number may exceed the prime, and a zero
first coordinate may come with either parity.

Verification is the strict one. The scalar has to be reduced, and neither the
key nor the commitment may be a point of small order. The equation is checked
as it stands, without clearing the cofactor.

## Main definitions

* `Ed25519.Point.decompress?`: Reads a point.
* `Ed25519.verify`: Whether a signature of a message is a key's.
-/

namespace Cosigner

namespace Ed25519

/-- The number of field elements. -/
abbrev prime : Nat := 0x7fffffffffffffffffffffffffffffffffffffffffffffffffffffffffffffed

/-- The order of the base point. -/
abbrev order : Nat := 0x1000000000000000000000000000000014def9dea2f79cd65812631a5cf5d3ed

/-- The value of the top bit of 32 bytes. -/
def topBit : Nat := 0x8000000000000000000000000000000000000000000000000000000000000000

/-- An element of the field. -/
abbrev Field := Fin prime

/-- The coefficient of the curve. -/
def curveD : Field := 37095705934669439343138083508754565189542113879843219016388785533085940283555

/-- A square root of minus one. -/
def rootOfMinusOne : Field :=
  19681161376707505956807079304988542015446066515923890162744021073123829784752

/-- A point in extended coordinates. -/
structure Point where
  /-- First coordinate, times `z`. -/
  x : Field
  /-- Second coordinate, times `z`. -/
  y : Field
  /-- Common denominator. -/
  z : Field
  /-- Product of the two coordinates, times `z`. -/
  t : Field

namespace Point

/-- The neutral element. -/
def zero : Point := ⟨0, 1, 1, 0⟩

/-- The base point. -/
def base : Point :=
  let x : Field := 15112221349535400772501151409588531511454012693041857206046113283949847762202
  let y : Field := 46316835694926478169428394003475163141307993866256225615783033603165251855960
  ⟨x, y, 1, x * y⟩

/-- The sum of two points. The formula is complete: it covers doublings and the
    neutral element. -/
def add (p q : Point) : Point :=
  let a := (p.y - p.x) * (q.y - q.x)
  let b := (p.y + p.x) * (q.y + q.x)
  let c := 2 * curveD * p.t * q.t
  let d := 2 * p.z * q.z
  ⟨(b - a) * (d - c), (d + c) * (b + a), (d - c) * (d + c), (b - a) * (b + a)⟩

/-- The point with the first coordinate negated. -/
def neg (p : Point) : Point :=
  ⟨0 - p.x, p.y, p.z, 0 - p.t⟩

/-- A multiple of a point. -/
def multiple (n : Nat) (p : Point) : Point :=
  iterateBits add zero p 256 n

/-- Whether two points are the same. -/
def same (p q : Point) : Bool :=
  p.x * q.z == q.x * p.z && p.y * q.z == q.y * p.z

/-- Whether eight times a point is the neutral element. -/
def smallOrder (p : Point) : Bool :=
  (p.multiple 8).same zero

end Point

/-- The even square root of a quotient, if it is a square. -/
def rootOfQuotient? (u v : Field) : Option Field :=
  let v3 := v * v * v
  let r := u * v3 * iterate (· * ·) 1 (u * v3 * v3 * v) ((prime - 5) / 8)
  let check := v * (r * r)
  let root :=
    if check = u then some r
    else if check = 0 - u then some (r * rootOfMinusOne)
    else none
  root.map fun r => if r.val % 2 = 1 then 0 - r else r

/-- Reads a point: the second coordinate in the low 255 bits, little-endian, the
    parity of the first one in the top bit. -/
def Point.decompress? (bytes : Octets 32) : Option Point :=
  let n := ofLE bytes.toBytes
  let y : Field := Fin.ofNat prime (n % topBit)
  (rootOfQuotient? (y * y - 1) (curveD * (y * y) + 1)).map fun root =>
    let x := if topBit ≤ n then 0 - root else root
    ⟨x, y, 1, x * y⟩

/-- Whether 64 bytes are a signature of a message: a commitment, then a
    scalar. -/
def verify (key : Octets 32) (message : Bytes) (signature : Octets 64) : Bool :=
  let commitment := signature.toBytes.take 32
  let scalar := ofLE (signature.toBytes.drop 32)
  match Point.decompress? key,
      (Octets.ofBytes? 32 commitment).bind Point.decompress? with
  | some a, some r =>
    if scalar < order ∧ ¬ r.smallOrder ∧ ¬ a.smallOrder then
      let hash := Sha512.digest (commitment ++ key.toBytes ++ message)
      let k := ofLE hash.toBytes % order
      ((Point.base.multiple scalar).add (a.neg.multiple k)).same r
    else false
  | _, _ => false

end Ed25519

end Cosigner
