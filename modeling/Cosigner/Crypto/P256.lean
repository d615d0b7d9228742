import Cosigner.Crypto.Modular
import Cosigner.Crypto.Sha2

/-!
# ECDSA over P-256

Passkey devices and browsers sign with P-256 and SHA-256. A public key is a
point of the curve `y² = x³ - 3x + b` over the field with `prime` elements; its
group has `order` elements, again a prime.

Points are kept in projective coordinates, and the addition formula is the
complete one for curves of odd order: it covers doublings and the neutral
element, so there is no case to forget.

A signature is two numbers, both from 1 to `order - 1`. The larger of the two
possible second numbers is as good as the smaller one.

## Main definitions

* `P256.PublicKey`: A point of the curve.
* `P256.PublicKey.ofCoordinates?`: A key from its two coordinates.
* `P256.PublicKey.compressed`: A key in its 33-byte form.
* `P256.verify`: Whether a signature of a message is a key's.
-/

namespace Cosigner

namespace P256

/-- The number of field elements. -/
abbrev prime : Nat := 0xffffffff00000001000000000000000000000000ffffffffffffffffffffffff

/-- The number of points. -/
abbrev order : Nat := 0xffffffff00000000ffffffffffffffffbce6faada7179e84f3b9cac2fc632551

/-- An element of the field. -/
abbrev Field := Fin prime

/-- A number modulo the number of points. -/
abbrev Scalar := Fin order

/-- The inverse of a field element; zero for zero. -/
def fieldInverse (x : Field) : Field :=
  iterate (· * ·) 1 x (prime - 2)

/-- The inverse of a scalar; zero for zero. -/
def scalarInverse (x : Scalar) : Scalar :=
  iterate (· * ·) 1 x (order - 2)

/-- The constant term of the curve. -/
def curveB : Field := 0x5ac635d8aa3a93e7b3ebbd55769886bc651d06b0cc53b0f63bce3c3e27d2604b

/-- A point in projective coordinates; the neutral element has `z = 0`. -/
structure Point where
  /-- First coordinate, times `z`. -/
  x : Field
  /-- Second coordinate, times `z`. -/
  y : Field
  /-- Common denominator. -/
  z : Field

/-- The neutral element. -/
def Point.zero : Point := ⟨0, 1, 0⟩

/-- The generator of the group. -/
def Point.generator : Point :=
  ⟨0x6b17d1f2e12c4247f8bce6e563a440f277037d812deb33a0f4a13945d898c296,
   0x4fe342e2fe1a7f9b8ee7eb4a7c0f9e162bce33576b315ececbb6406837bf51f5, 1⟩

/-- The sum of two points, by the complete formula. -/
def Point.add (p q : Point) : Point :=
  let xx := p.x * q.x
  let yy := p.y * q.y
  let zz := p.z * q.z
  let xy := p.x * q.y + q.x * p.y
  let xz := p.x * q.z + q.x * p.z
  let yz := p.y * q.z + q.y * p.z
  -- the curve's coefficients are -3 and `curveB`
  let bz := 3 * (curveB * zz) - 3 * xz
  let low := yy - bz
  let high := yy + bz
  let slope := 3 * xx - 3 * zz
  let cross := 3 * (curveB * xz) - 3 * xx - 9 * zz
  ⟨xy * low - yz * cross, slope * cross + high * low, yz * high + xy * slope⟩

/-- A multiple of a point. -/
def Point.multiple (n : Nat) (p : Point) : Point :=
  iterateBits Point.add Point.zero p 256 n

/-- A point of the curve other than the neutral element. -/
structure PublicKey where
  /-- First coordinate. -/
  x : Field
  /-- Second coordinate. -/
  y : Field
  /-- The coordinates satisfy the equation of the curve. -/
  onCurve : y * y = x * x * x - 3 * x + curveB
  deriving DecidableEq

namespace PublicKey

/-- The key with the given coordinates, if both are field elements and they
    name a point of the curve. -/
def ofCoordinates? (x y : Octets 32) : Option PublicKey :=
  if hx : x.toNatBE < prime then
    if hy : y.toNatBE < prime then
      let x : Field := ⟨x.toNatBE, hx⟩
      let y : Field := ⟨y.toNatBE, hy⟩
      if h : y * y = x * x * x - 3 * x + curveB then some ⟨x, y, h⟩ else none
    else none
  else none

/-- The 33-byte form: the parity of the second coordinate, then the first
    coordinate. -/
def compressed (key : PublicKey) : Octets 33 :=
  (Octets.ofNatBE 1 (2 + key.y.val % 2)).append (.ofNatBE 32 key.x.val)

/-- The key as a point. -/
def toPoint (key : PublicKey) : Point :=
  ⟨key.x, key.y, 1⟩

end PublicKey

/-- Whether two numbers are a signature of a digest. -/
def verifyDigest (key : PublicKey) (digest r s : Nat) : Bool :=
  if 0 < r ∧ r < order ∧ 0 < s ∧ s < order then
    let w := scalarInverse (Fin.ofNat order s)
    let u := Fin.ofNat order digest * w
    let v := Fin.ofNat order r * w
    let sum := (Point.generator.multiple u.val).add (key.toPoint.multiple v.val)
    sum.z ≠ 0 && (sum.x * fieldInverse sum.z).val % order == r
  else false

/-- Whether 64 bytes are a signature of a message. -/
def verify (key : PublicKey) (message : Bytes) (signature : Octets 64) : Bool :=
  verifyDigest key (Sha256.digest message).toNatBE
    (ofBE (signature.toBytes.take 32)) (ofBE (signature.toBytes.drop 32))

end P256

end Cosigner
