import Cosigner.Address

/-!
# Instructions

A transaction is a list of instructions. Each names a program, the accounts it
hands to it and the bytes that the program reads. An account is handed over with
two flags: whether its holder signed, and whether the program may write to it.

## Main definitions

* `Role`: The two flags.
* `AccountRef`: An account with its role.
* `Instruction`: A program, accounts and data.
-/

namespace Cosigner

/-- What an instruction may do with an account. -/
structure Role where
  /-- The account's holder signed the transaction. -/
  signer : Bool
  /-- The account may be written to. -/
  writable : Bool
  deriving DecidableEq, Repr, Inhabited

namespace Role

/-- The role of an account that is only named. -/
def plain : Role := ⟨false, false⟩

/-- The role of the account that pays for a transaction. -/
def payer : Role := ⟨true, true⟩

/-- What either of two roles allows. -/
def join (a b : Role) : Role :=
  ⟨a.signer || b.signer, a.writable || b.writable⟩

/-- Whether a program with this role is called by the message itself. Programs
    of a wallet message are called by the wallet's vault, so a program is an
    account like any other and may be loaded from a table. -/
def invoked (_ : Role) : Bool := false

end Role

/-- An account as an instruction refers to it. -/
structure AccountRef where
  /-- The account. -/
  key : Address
  /-- What the instruction may do with it. -/
  role : Role
  deriving DecidableEq

/-- A call of a program. -/
structure Instruction where
  /-- The program called. -/
  program : Address
  /-- The accounts handed to it, in order. -/
  accounts : List AccountRef
  /-- The bytes it reads. -/
  data : Bytes
  deriving DecidableEq

end Cosigner
