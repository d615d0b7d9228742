/-!
# Retries

Some answers become available only after a while, so a failing operation is
tried again, up to a number of attempts. At least one attempt is made, even if
the number is zero.

The counter of attempts has 32 bits. It is compared before it grows, so it never
passes the number of attempts, and counting up cannot overflow.

## Main definitions

* `Retried`: What came of an operation, and how often it was tried.
* `retry`: Tries an operation until it succeeds or the attempts are used up.
-/

namespace Cosigner

/-- What came of an operation that may be tried again. -/
structure Retried (ε α : Type) where
  /-- The first success, or the last failure. -/
  result : Except ε α
  /-- How often the operation was tried. -/
  calls : Nat

/-- Counting up a counter below a limit does not overflow. -/
theorem toNat_counter_succ {attempt attempts : UInt32} (h : attempt < attempts) :
    (attempt + 1).toNat = attempt.toNat + 1 := by
  have hlt : attempt.toNat < attempts.toNat := h
  have hbound := attempts.toNat_lt
  rw [UInt32.toNat_add, UInt32.toNat_one]
  omega

/-- Counting up a counter below a limit brings it closer to the limit. -/
theorem sub_counter_lt {attempt attempts : UInt32} (h : attempt < attempts) :
    attempts.toNat - (attempt + 1).toNat < attempts.toNat - attempt.toNat := by
  have hlt : attempt.toNat < attempts.toNat := h
  have hsucc := toNat_counter_succ h
  omega

/-- The attempts from the one that the counter shows, after `made` others.
    `outcome n` is what the operation says when it is tried for the `n`-th
    time. -/
def retryFrom {ε α : Type} (attempts : UInt32) (outcome : Nat → Except ε α)
    (attempt : UInt32) (made : Nat) : Retried ε α :=
  match outcome (made + 1) with
  | .ok a => ⟨.ok a, made + 1⟩
  | .error e =>
    if attempt < attempts then retryFrom attempts outcome (attempt + 1) (made + 1)
    else ⟨.error e, made + 1⟩
termination_by attempts.toNat - attempt.toNat
decreasing_by exact sub_counter_lt (by assumption)

/-- Tries an operation until it succeeds or the attempts are used up. -/
def retry {ε α : Type} (attempts : UInt32) (outcome : Nat → Except ε α) : Retried ε α :=
  retryFrom attempts outcome 1 0

end Cosigner
