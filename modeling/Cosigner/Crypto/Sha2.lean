import Cosigner.Octets

/-!
# SHA-256 and SHA-512

The two hash functions are one construction over words of 32 and of 64 bits.
A message is padded to whole blocks of sixteen words: a byte `0x80`, zeros, and
the message's length in bits. Each block is folded into a state of eight words
by as many rounds as there are round constants, and the last state is the
digest.

The message schedule is kept as a window of the next sixteen words. A round
uses the first word of the window and appends the one that follows the last, so
no index ever runs past what has been computed.

SHA-256 hashes buffers, challenges and signed messages here; SHA-512 is the hash
inside Ed25519.

## Main definitions

* `Sha2.Word`: What the construction asks of a word type.
* `Sha256.digest`: The 32-byte digest.
* `Sha512.digest`: The 64-byte digest.
-/

namespace Cosigner

namespace Sha2

/-- What the construction asks of a word type: ring addition, bitwise
    operations, and the rotations and shifts of the four mixing functions. -/
class Word (W : Type) extends Add W, XorOp W, AndOp W, Complement W, Inhabited W where
  /-- Bytes in a word. -/
  width : Nat
  /-- The word with the low bits of a number. -/
  ofNat : Nat → W
  /-- The number that a word spells. -/
  toNat : W → Nat
  /-- Rotation to the right. -/
  rotate : W → Nat → W
  /-- Shift to the right, zeros coming in. -/
  shift : W → Nat → W
  /-- The rotations of the mixing function of a state's first word. -/
  sumA : Nat × Nat × Nat
  /-- The rotations of the mixing function of a state's fifth word. -/
  sumE : Nat × Nat × Nat
  /-- Two rotations and a shift: the mixing of the schedule's second word. -/
  sigma0 : Nat × Nat × Nat
  /-- Two rotations and a shift: the mixing of the schedule's fifteenth word. -/
  sigma1 : Nat × Nat × Nat
  /-- One constant for each round. -/
  constants : List W

/-- Eight words, the running digest. -/
structure State (W : Type) where
  /-- First word. -/
  a : W
  /-- Second word. -/
  b : W
  /-- Third word. -/
  c : W
  /-- Fourth word. -/
  d : W
  /-- Fifth word. -/
  e : W
  /-- Sixth word. -/
  f : W
  /-- Seventh word. -/
  g : W
  /-- Eighth word. -/
  h : W

variable {W : Type} [Word W]

/-- The exclusive or of three rotations. -/
@[specialize] def mixRotations (r : Nat × Nat × Nat) (x : W) : W :=
  Word.rotate x r.1 ^^^ Word.rotate x r.2.1 ^^^ Word.rotate x r.2.2

/-- The exclusive or of two rotations and a shift. -/
@[specialize] def mixShift (r : Nat × Nat × Nat) (x : W) : W :=
  Word.rotate x r.1 ^^^ Word.rotate x r.2.1 ^^^ Word.shift x r.2.2

/-- One round: the state's words move down by one, and two new ones come in. -/
@[specialize] def round (s : State W) (constant word : W) : State W :=
  let choice := (s.e &&& s.f) ^^^ (~~~s.e &&& s.g)
  let majority := (s.a &&& s.b) ^^^ (s.a &&& s.c) ^^^ (s.b &&& s.c)
  let t := s.h + mixRotations (Word.sumE (W := W)) s.e + choice + constant + word
  let u := mixRotations (Word.sumA (W := W)) s.a + majority
  ⟨t + u, s.a, s.b, s.c, s.d + t, s.e, s.f, s.g⟩

/-- The word that follows a window of sixteen in the schedule. -/
@[specialize] def nextWord (window : List W) : W :=
  mixShift (Word.sigma1 (W := W)) (window.getD 14 default) + window.getD 9 default +
    mixShift (Word.sigma0 (W := W)) (window.getD 1 default) + window.getD 0 default

/-- The rounds of the given constants, from a window of the schedule. -/
@[specialize] def rounds : List W → List W → State W → State W
  | [], _, s => s
  | constant :: rest, window, s =>
    rounds rest (window.tail ++ [nextWord window])
      (round s constant (window.getD 0 default))

/-- Folds a block of sixteen words into the running digest. -/
@[specialize] def compress (s : State W) (block : List W) : State W :=
  let t := rounds Word.constants block s
  ⟨s.a + t.a, s.b + t.b, s.c + t.c, s.d + t.d, s.e + t.e, s.f + t.f, s.g + t.g, s.h + t.h⟩

/-- A message with its padding: whole blocks of sixteen words. -/
def pad (width : Nat) (message : Bytes) : Bytes :=
  let block := 16 * width
  let used := (message.length + 1 + 2 * width) % block
  message ++ 0x80 :: List.replicate ((block - used) % block) 0
    ++ beBytes (2 * width) (8 * message.length)

/-- The first `count` words that a byte string spells. -/
@[specialize] def words (W : Type) [Word W] : Nat → Bytes → List W
  | 0, _ => []
  | count + 1, bs =>
    Word.ofNat (ofBE (bs.take (Word.width W))) :: words W count (bs.drop (Word.width W))

/-- Folds `count` blocks of a padded message into the running digest. -/
@[specialize] def absorb : Nat → Bytes → State W → State W
  | 0, _, s => s
  | count + 1, bs, s =>
    absorb count (bs.drop (16 * Word.width W)) (compress s (words W 16 bs))

/-- The running digest after a whole message. -/
@[specialize] def run (start : State W) (message : Bytes) : State W :=
  let padded := pad (Word.width W) message
  absorb (padded.length / (16 * Word.width W)) padded start

/-- A state's words as bytes. -/
@[specialize] def State.toOctets (n : Nat) (s : State W) : Octets (8 * n) :=
  let word (x : W) : Octets n := .ofNatBE n (Word.toNat x)
  let all := (word s.a).append (word s.b) |>.append (word s.c) |>.append (word s.d)
    |>.append (word s.e) |>.append (word s.f) |>.append (word s.g) |>.append (word s.h)
  ⟨all.toBytes, by rw [all.length_eq]; omega⟩

instance : Word UInt32 where
  width := 4
  ofNat := UInt32.ofNat
  toNat := UInt32.toNat
  rotate x r := x >>> UInt32.ofNat r ||| x <<< UInt32.ofNat (32 - r)
  shift x r := x >>> UInt32.ofNat r
  sumA := (2, 13, 22)
  sumE := (6, 11, 25)
  sigma0 := (7, 18, 3)
  sigma1 := (17, 19, 10)
  constants := [
    0x428a2f98, 0x71374491, 0xb5c0fbcf, 0xe9b5dba5, 0x3956c25b, 0x59f111f1,
    0x923f82a4, 0xab1c5ed5, 0xd807aa98, 0x12835b01, 0x243185be, 0x550c7dc3,
    0x72be5d74, 0x80deb1fe, 0x9bdc06a7, 0xc19bf174, 0xe49b69c1, 0xefbe4786,
    0x0fc19dc6, 0x240ca1cc, 0x2de92c6f, 0x4a7484aa, 0x5cb0a9dc, 0x76f988da,
    0x983e5152, 0xa831c66d, 0xb00327c8, 0xbf597fc7, 0xc6e00bf3, 0xd5a79147,
    0x06ca6351, 0x14292967, 0x27b70a85, 0x2e1b2138, 0x4d2c6dfc, 0x53380d13,
    0x650a7354, 0x766a0abb, 0x81c2c92e, 0x92722c85, 0xa2bfe8a1, 0xa81a664b,
    0xc24b8b70, 0xc76c51a3, 0xd192e819, 0xd6990624, 0xf40e3585, 0x106aa070,
    0x19a4c116, 0x1e376c08, 0x2748774c, 0x34b0bcb5, 0x391c0cb3, 0x4ed8aa4a,
    0x5b9cca4f, 0x682e6ff3, 0x748f82ee, 0x78a5636f, 0x84c87814, 0x8cc70208,
    0x90befffa, 0xa4506ceb, 0xbef9a3f7, 0xc67178f2]

instance : Word UInt64 where
  width := 8
  ofNat := UInt64.ofNat
  toNat := UInt64.toNat
  rotate x r := x >>> UInt64.ofNat r ||| x <<< UInt64.ofNat (64 - r)
  shift x r := x >>> UInt64.ofNat r
  sumA := (28, 34, 39)
  sumE := (14, 18, 41)
  sigma0 := (1, 8, 7)
  sigma1 := (19, 61, 6)
  constants := [
    0x428a2f98d728ae22, 0x7137449123ef65cd, 0xb5c0fbcfec4d3b2f, 0xe9b5dba58189dbbc,
    0x3956c25bf348b538, 0x59f111f1b605d019, 0x923f82a4af194f9b, 0xab1c5ed5da6d8118,
    0xd807aa98a3030242, 0x12835b0145706fbe, 0x243185be4ee4b28c, 0x550c7dc3d5ffb4e2,
    0x72be5d74f27b896f, 0x80deb1fe3b1696b1, 0x9bdc06a725c71235, 0xc19bf174cf692694,
    0xe49b69c19ef14ad2, 0xefbe4786384f25e3, 0x0fc19dc68b8cd5b5, 0x240ca1cc77ac9c65,
    0x2de92c6f592b0275, 0x4a7484aa6ea6e483, 0x5cb0a9dcbd41fbd4, 0x76f988da831153b5,
    0x983e5152ee66dfab, 0xa831c66d2db43210, 0xb00327c898fb213f, 0xbf597fc7beef0ee4,
    0xc6e00bf33da88fc2, 0xd5a79147930aa725, 0x06ca6351e003826f, 0x142929670a0e6e70,
    0x27b70a8546d22ffc, 0x2e1b21385c26c926, 0x4d2c6dfc5ac42aed, 0x53380d139d95b3df,
    0x650a73548baf63de, 0x766a0abb3c77b2a8, 0x81c2c92e47edaee6, 0x92722c851482353b,
    0xa2bfe8a14cf10364, 0xa81a664bbc423001, 0xc24b8b70d0f89791, 0xc76c51a30654be30,
    0xd192e819d6ef5218, 0xd69906245565a910, 0xf40e35855771202a, 0x106aa07032bbd1b8,
    0x19a4c116b8d2d0c8, 0x1e376c085141ab53, 0x2748774cdf8eeb99, 0x34b0bcb5e19b48a8,
    0x391c0cb3c5c95a63, 0x4ed8aa4ae3418acb, 0x5b9cca4f7763e373, 0x682e6ff3d6b2b8a3,
    0x748f82ee5defb2fc, 0x78a5636f43172f60, 0x84c87814a1f0ab72, 0x8cc702081a6439ec,
    0x90befffa23631e28, 0xa4506cebde82bde9, 0xbef9a3f7b2c67915, 0xc67178f2e372532b,
    0xca273eceea26619c, 0xd186b8c721c0c207, 0xeada7dd6cde0eb1e, 0xf57d4f7fee6ed178,
    0x06f067aa72176fba, 0x0a637dc5a2c898a6, 0x113f9804bef90dae, 0x1b710b35131c471b,
    0x28db77f523047d84, 0x32caab7b40c72493, 0x3c9ebe0a15c9bebc, 0x431d67c49c100d4c,
    0x4cc5d4becb3e42b6, 0x597f299cfc657e2a, 0x5fcb6fab3ad6faec, 0x6c44198c4a475817]

end Sha2

namespace Sha256

/-- The running digest before any block. -/
def start : Sha2.State UInt32 :=
  ⟨0x6a09e667, 0xbb67ae85, 0x3c6ef372, 0xa54ff53a,
    0x510e527f, 0x9b05688c, 0x1f83d9ab, 0x5be0cd19⟩

/-- The SHA-256 digest of a message. -/
def digest (message : Bytes) : Octets 32 :=
  (Sha2.run start message).toOctets 4

end Sha256

namespace Sha512

/-- The running digest before any block. -/
def start : Sha2.State UInt64 :=
  ⟨0x6a09e667f3bcc908, 0xbb67ae8584caa73b, 0x3c6ef372fe94f82b, 0xa54ff53a5f1d36f1,
    0x510e527fade682d1, 0x9b05688c2b3e6c1f, 0x1f83d9abfb41bd6b, 0x5be0cd19137e2179⟩

/-- The SHA-512 digest of a message. -/
def digest (message : Bytes) : Octets 64 :=
  (Sha2.run start message).toOctets 8

end Sha512

end Cosigner
