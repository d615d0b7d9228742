import Cosigner.Codec

/-!
# Named Layouts

Data that the wallet program defines is read by layouts. A layout has a name,
which is what a refusal shows, and it has to account for every byte of its
input.

## Main definitions

* `Layout`: A codec with a name.
* `LayoutError`: Why program data cannot be read.
* `Layout.read`: Reads data that has to be one value and nothing else.
* `Layout.readFront`: Reads a value that other bytes may follow.
-/

namespace Cosigner

/-- A codec with the name that a refusal shows. -/
structure Layout (α : Type) where
  /-- The name of the layout. -/
  name : String
  /-- Its two directions. -/
  codec : Codec α

/-- Why program data cannot be read. -/
inductive LayoutError where
  /-- Instruction data of `size` bytes is too short for a discriminator. -/
  | noDiscriminator (size : Nat)
  /-- Account data does not start with the discriminator of its type. -/
  | wrongAccount
  /-- Data does not decode by the layout of the given name. -/
  | undecodable (layout : String) (fault : Codec.Fault)
  /-- A member key is of no known kind. -/
  | unknownKeyKind (tag : UInt8)
  deriving DecidableEq, Repr

/-- The name of a layout error in reports. -/
def LayoutError.name : LayoutError → String
  | .noDiscriminator _ => "MissingDiscriminator"
  | .wrongAccount => "AccountDiscriminatorMismatch"
  | .undecodable _ _ => "Decode"
  | .unknownKeyKind _ => "UnknownKeyType"

/-- Wording of a layout error. -/
def LayoutError.message : LayoutError → String
  | .noDiscriminator size => s!"Instruction data is {size} bytes, expected at least 8"
  | .wrongAccount => "Account discriminator mismatch"
  | .undecodable layout fault => s!"Failed to decode {layout}: {fault.message}"
  | .unknownKeyKind tag => s!"Unknown member key type: {tag.toNat}"

namespace Layout

variable {α : Type}

/-- Reads data that has to be one value and nothing else. -/
def read (l : Layout α) (bs : Bytes) : Except LayoutError α :=
  match l.codec.decodeAll bs with
  | .ok a => .ok a
  | .error fault => .error (.undecodable l.name fault)

/-- Reads a value from the front of data; what follows is ignored. -/
def readFront (l : Layout α) (bs : Bytes) : Except LayoutError α :=
  match l.codec.decode bs with
  | .ok (a, _) => .ok a
  | .error fault => .error (.undecodable l.name fault)

end Layout

end Cosigner
