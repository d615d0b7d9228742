import Cosigner.Ledger.Retry
import Mathlib.Order.Basic

/-!
# What Comes of Retrying

An operation is tried again after each failure, and it is not known beforehand
how often it fails. What can be said of the end is said of the last call alone:
its outcome is the outcome of all, everything before it failed, and if it failed
too, then no attempt was left.

The number of attempts is compared with a counter that starts at one, while the
calls are counted from none. So the two differ by one throughout, and this is the
invariant that carries the induction. It also explains the case of no attempts at
all: the counter is past the number before the first call, so that call is the
last.

## Main definitions

* `Retried.Settled`: What comes of trying an operation a limited number of times.

## Theorems

* `retryFrom_of_ok`, `retryFrom_of_lt`, `retryFrom_of_ge`: One call.
* `retryFrom_settled`: The attempts from any point on.
* `retry_settled`: All attempts.
-/

namespace Cosigner

/-- What comes of trying an operation, but not more often than a limit allows. -/
structure Retried.Settled {ε α : Type} (limit : Nat) (outcome : Nat → Except ε α)
    (r : Retried ε α) : Prop where
  -- The outcome is that of the last call,
  last : r.result = outcome r.calls
  -- all calls before it failed,
  failed : ∀ n, 1 ≤ n → n < r.calls → ∃ e, outcome n = .error e
  -- there was a first call, and the limit was kept.
  first : 1 ≤ r.calls
  limited : r.calls ≤ limit
  -- Nothing but a success ends the attempts before the limit.
  exhausted : ∀ e, r.result = .error e → r.calls = limit

variable {ε α : Type} (attempts : UInt32) (outcome : Nat → Except ε α)

/-- A success ends the attempts. -/
theorem retryFrom_of_ok (attempt : UInt32) (made : Nat) (a : α)
    (hok : outcome (made + 1) = .ok a) :
    retryFrom attempts outcome attempt made = ⟨.ok a, made + 1⟩ := by
  rw [retryFrom, hok]

/-- A failure is followed by another call while the counter is below the number. -/
theorem retryFrom_of_lt (attempt : UInt32) (made : Nat) (e : ε)
    (herror : outcome (made + 1) = .error e) (hlt : attempt < attempts) :
    retryFrom attempts outcome attempt made =
      retryFrom attempts outcome (attempt + 1) (made + 1) := by
  rw [retryFrom, herror]
  exact if_pos hlt

/-- A failure ends the attempts once the counter has reached the number. -/
theorem retryFrom_of_ge (attempt : UInt32) (made : Nat) (e : ε)
    (herror : outcome (made + 1) = .error e) (hge : attempt ≥ attempts) :
    retryFrom attempts outcome attempt made = ⟨.error e, made + 1⟩ := by
  rw [retryFrom, herror]
  exact if_neg (Nat.not_lt_of_le hge)

-- The counter is one ahead of the calls that were made, all of which failed.
theorem retryFrom_settled (attempt : UInt32) (made : Nat) (hcounter : attempt.toNat = made + 1)
    (hmade : made < max attempts.toNat 1)
    (hfailed : ∀ n, 1 ≤ n → n ≤ made → ∃ e, outcome n = .error e) :
    (retryFrom attempts outcome attempt made).Settled (max attempts.toNat 1) outcome := by
  induction attempt, made using retryFrom.induct attempts outcome with
  | case1 attempt made a hok =>
      rw [retryFrom_of_ok attempts outcome attempt made a hok]
      exact ⟨hok.symm, fun n hn hlt => hfailed n hn (Nat.le_of_lt_succ hlt), Nat.le_add_left 1 made,
        hmade, fun e he => absurd he (by simp only [reduceCtorEq, not_false_eq_true])⟩
  | case2 attempt made e herror hleft ih =>
      have hlt : attempt.toNat < attempts.toNat := hleft
      have hsucc := toNat_counter_succ hleft
      rw [retryFrom_of_lt attempts outcome attempt made e herror hleft]
      refine ih (by omega) (by omega) fun n hn hle => ?_
      rcases Nat.lt_or_eq_of_le hle with hlt | rfl
      · exact hfailed n hn (Nat.le_of_lt_succ hlt)
      · exact ⟨e, herror⟩
  | case3 attempt made e herror hnone =>
      -- The counter has reached the number of attempts, so this was the last call.
      have hge : attempts.toNat ≤ attempt.toNat := Nat.le_of_not_lt hnone
      have hlast : made + 1 = max attempts.toNat 1 := by omega
      rw [retryFrom_of_ge attempts outcome attempt made e herror hge]
      exact ⟨herror.symm, fun n hn hlt => hfailed n hn (Nat.le_of_lt_succ hlt),
        Nat.le_add_left 1 made, hmade, fun _ _ => hlast⟩

/-- At least one attempt is made, and otherwise no more than the number says. -/
theorem retry_settled : (retry attempts outcome).Settled (max attempts.toNat 1) outcome := by
  refine retryFrom_settled attempts outcome 1 0 rfl (by omega) fun n hn hle => ?_
  exact absurd hn (Nat.not_le_of_lt (Nat.lt_succ_of_le hle))

-- An operation that fails twice. Without any attempt it is still tried once.
example :
    let outcome (n : Nat) : Except Nat Nat := if n < 3 then .error n else .ok n
    (retry 0 outcome).calls = 1 ∧ (retry 0 outcome).result = .error 1 ∧
      (retry 2 outcome).calls = 2 ∧ (retry 2 outcome).result = .error 2 ∧
      (retry 5 outcome).calls = 3 ∧ (retry 5 outcome).result = .ok 3 := by
  decide +kernel

end Cosigner
