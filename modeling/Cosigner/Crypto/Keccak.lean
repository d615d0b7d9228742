import Cosigner.Octets

/-!
# Keccak-256

The sponge with the Keccak permutation, a rate of 136 bytes and the padding that
opens with the byte `0x01`. Addresses of compressed accounts are digests of this
function.

The state is a square of five by five lanes of 64 bits; the lane in column `x`
and row `y` stands at place `x + 5 * y` of the list. A round mixes columns,
turns and moves lanes, combines each lane with its two right neighbours, and
breaks the symmetry with a constant.

## Main definitions

* `Keccak256.permute`: The permutation of the state.
* `Keccak256.digest`: The 32-byte digest.
-/

namespace Cosigner

namespace Keccak256

/-- Twenty-five lanes, row by row. -/
abbrev State := List UInt64

/-- The lane in a column and a row, both taken modulo five. -/
def lane (s : State) (x y : Nat) : UInt64 :=
  s.getD (x % 5 + 5 * (y % 5)) 0

/-- The state whose lane in column `x` and row `y` is `f x y`. -/
def ofLanes (f : Nat → Nat → UInt64) : State :=
  (List.range 25).map fun i => f (i % 5) (i / 5)

/-- Rotation to the left. -/
def rotate (w : UInt64) (r : Nat) : UInt64 :=
  if r = 0 then w else w <<< UInt64.ofNat r ||| w >>> UInt64.ofNat (64 - r)

/-- Adds to each lane the parities of the two neighbouring columns. -/
def mixColumns (s : State) : State :=
  let parity (x : Nat) := lane s x 0 ^^^ lane s x 1 ^^^ lane s x 2 ^^^ lane s x 3 ^^^ lane s x 4
  let parities := (List.range 5).map parity
  ofLanes fun x y =>
    lane s x y ^^^ parities.getD ((x + 4) % 5) 0 ^^^ rotate (parities.getD ((x + 1) % 5) 0) 1

/-- By how much each lane is turned, row by row. -/
def turns : List Nat :=
  [0, 1, 62, 28, 27,
   36, 44, 6, 55, 20,
   3, 10, 43, 25, 39,
   41, 45, 15, 21, 8,
   18, 2, 61, 56, 14]

/-- Turns each lane and moves the one in column `x` and row `y` to column `y`
    and row `2 * x + 3 * y`. -/
def moveLanes (s : State) : State :=
  ofLanes fun x y =>
    -- the lane that arrives at `(x, y)` comes from column `x + 3 * y`, row `x`
    let source := x + 3 * y
    rotate (lane s source x) (turns.getD (source % 5 + 5 * (x % 5)) 0)

/-- Combines each lane with the two lanes to its right. -/
def mixRows (s : State) : State :=
  ofLanes fun x y => lane s x y ^^^ (~~~(lane s (x + 1) y) &&& lane s (x + 2) y)

/-- The round constants. -/
def constants : List UInt64 := [
  0x0000000000000001, 0x0000000000008082, 0x800000000000808a, 0x8000000080008000,
  0x000000000000808b, 0x0000000080000001, 0x8000000080008081, 0x8000000000008009,
  0x000000000000008a, 0x0000000000000088, 0x0000000080008009, 0x000000008000000a,
  0x000000008000808b, 0x800000000000008b, 0x8000000000008089, 0x8000000000008003,
  0x8000000000008002, 0x8000000000000080, 0x000000000000800a, 0x800000008000000a,
  0x8000000080008081, 0x8000000000008080, 0x0000000080000001, 0x8000000080008008]

/-- Adds a constant to the first lane. -/
def addConstant (c : UInt64) : State → State
  | [] => []
  | first :: rest => (first ^^^ c) :: rest

/-- The permutation: one round for each constant. -/
def permute (s : State) : State :=
  constants.foldl (fun s c => addConstant c (mixRows (moveLanes (mixColumns s)))) s

/-- Bytes taken in between two permutations. -/
def rate : Nat := 136

/-- A message with its padding: whole blocks of `rate` bytes, the first byte
    after the message marked and the last byte of all marked too. -/
def pad (message : Bytes) : Bytes :=
  match rate - message.length % rate with
  | 1 => message ++ [0x81]
  | room => message ++ 0x01 :: List.replicate (room - 2) 0 ++ [0x80]

/-- The lanes that a block spells, little-endian, zero past its end. -/
def blockLanes (block : Bytes) : State :=
  (List.range 25).map fun i => UInt64.ofNat (ofLE ((block.drop (8 * i)).take 8))

/-- Takes in `count` blocks. -/
def absorb : Nat → Bytes → State → State
  | 0, _, s => s
  | count + 1, bs, s =>
    absorb count (bs.drop rate)
      (permute (List.zipWith (· ^^^ ·) s (blockLanes (bs.take rate))))

/-- The Keccak-256 digest of a message. -/
def digest (message : Bytes) : Octets 32 :=
  let padded := pad message
  let s := absorb (padded.length / rate) padded (List.replicate 25 0)
  let word (i : Nat) : Octets 8 := ⟨leBytes 8 (lane s i 0).toNat, length_leBytes _ _⟩
  (word 0).append (word 1) |>.append (word 2) |>.append (word 3)

end Keccak256

end Cosigner
