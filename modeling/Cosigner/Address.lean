import Cosigner.Codec
import Cosigner.Text.Base58
import Cosigner.Crypto.Ed25519
import Cosigner.Crypto.Keccak

/-!
# Addresses

An address is a block of 32 bytes: the Ed25519 key of a person or a program, or
a value derived for a program from seeds. Addresses are shown in base 58 and
ordered byte by byte.

A derived address is the SHA-256 digest of the seeds, a bump byte, the program
and a fixed text, for the largest bump byte whose digest is no point of the
curve. Nobody holds a key for such an address, so only the program can sign for
it.

## Main definitions

* `Address`: A block of 32 bytes.
* `Address.toText`, `Address.parse`: The base 58 form.
* `Address.precedes`: The order of addresses.
* `Address.derive?`: The address derived for a program from seeds.
-/

namespace Cosigner

/-- A block of 32 bytes that names an account. -/
abbrev Address := Octets 32

namespace Address

/-- The base 58 form. -/
def toText (a : Address) : String :=
  Base58.encode a.toBytes

/-- Why text is no address. -/
inductive ParseError where
  /-- Some character is no base 58 digit. -/
  | badDigit
  /-- The text is too long or does not spell 32 bytes. -/
  | wrongSize
  deriving DecidableEq, Repr

/-- Wording of a parse error. -/
def ParseError.message : ParseError → String
  | .badDigit => "Invalid Base58 string"
  | .wrongSize => "String is the wrong size"

/-- The longest text that can spell 32 bytes. -/
def maxTextLength : Nat := 44

/-- Reads the base 58 form. The length of the text is looked at first. -/
def parse (s : String) : Except ParseError Address :=
  if maxTextLength < s.utf8ByteSize then .error .wrongSize
  else
    match Base58.decode? s with
    | none => .error .badDigit
    | some bs =>
      match Octets.ofBytes? 32 bs with
      | some a => .ok a
      | none => .error .wrongSize

/-- Whether one byte string comes before another, or they are equal: at the
    first difference the smaller byte decides, and a shorter string comes before
    its extensions. -/
def bytesPrecede : Bytes → Bytes → Bool
  | [], _ => true
  | _ :: _, [] => false
  | x :: xs, y :: ys => if x = y then bytesPrecede xs ys else x < y

/-- Whether one address comes before another, or they are equal. -/
def precedes (a b : Address) : Bool :=
  bytesPrecede a.toBytes b.toBytes

/-- Adds an address to an ascending list that has each address once. -/
def insertSorted (a : Address) : List Address → List Address
  | [] => [a]
  | b :: rest =>
    if a = b then b :: rest
    else if a.precedes b then a :: b :: rest
    else b :: insertSorted a rest

/-- The addresses of a list in ascending order, each once. -/
def sortedSet (as : List Address) : List Address :=
  as.foldr insertSorted []

/-- The text hashed behind every derived address. -/
def derivationMark : Bytes :=
  Utf8.encode "ProgramDerivedAddress"

/-- The candidate for one bump byte. -/
def candidate (program : Address) (seeds : Bytes) (bump : Nat) : Address :=
  Sha256.digest (seeds ++ UInt8.ofNat bump :: program.toBytes ++ derivationMark)

/-- The first candidate that is no point of the curve, from a bump byte
    downwards to 1. -/
def deriveFrom (program : Address) (seeds : Bytes) : Nat → Option Address
  | 0 => none
  | bump + 1 =>
    let a := candidate program seeds (bump + 1)
    if (Ed25519.Point.decompress? a).isNone then some a
    else deriveFrom program seeds bump

/-- The address derived for a program from seeds, given in a row. -/
def derive? (program : Address) (seeds : Bytes) : Option Address :=
  deriveFrom program seeds 255

/-- The address derived for a program from seeds. About half of all digests are
    points of the curve, so that all 255 candidates are is beyond reach; the
    zero address stands for that case. -/
def derive (program : Address) (seeds : Bytes) : Address :=
  (derive? program seeds).getD default

end Address

end Cosigner
