import Cosigner.Proofs.Ledger.Retry
import Mathlib.Data.ENat.Lattice

/-!
# Attempts in Rounds

Nothing in the text of a loop bounds how often it comes around. Trying an operation
again is such a loop: it goes on after every failure, and the operation may fail
forever. `retry` says what comes of it at once. Here the loop is taken apart into
rounds, one call in each, and followed from one round to the next.

A round has an outcome that `retry` does not have. The counter has 32 bits, and where
it would have to count past its last value the round ends in `Retrying.overflowed`.
That this never happens, not even for the largest number of attempts, is due to the
order in a round: the counter is compared first and counted up only if it is below
the number, so there is always a next value.

While the attempts go on, the counter is one ahead of the calls, and `retryFrom`
still comes to what `retry` comes to. This is what a round preserves. It says how
long the attempts last, because the calls that were made are always fewer than those
in the result.

How many calls that is depends on the failures before the first success. There may
be no success at all, so their number is one of `ℕ∞`, and without a success it is `⊤`.

## Main definitions

* `initialFailures`: How often an operation fails before its first success.
* `Retrying`, `Retrying.round`: Where the attempts stand, and one round of them.
* `Retrying.after`: Where the attempts stand after a number of rounds.
* `Retrying.Stands`: What is known then.
* `TriesExactly`: How often an operation is tried, and what comes of it.

## Theorems

* `le_initialFailures_iff`: A number of failures, call by call.
* `Retried.Settled.ok_or_error`: The end of the attempts, by the failures.
* `Retrying.stands_round`, `Retrying.stands_after`: One round, and all of them.
* `retry_triesExactly`: Any number of attempts of any operation.
-/

namespace Cosigner

variable {ε α : Type}

/-- How often an operation fails before its first success. -/
noncomputable def initialFailures (outcome : Nat → Except ε α) : ℕ∞ :=
  ⨅ (n : Nat) (_ : ∃ a, outcome (n + 1) = .ok a), (n : ℕ∞)

theorem initialFailures_le (outcome : Nat → Except ε α) (n : Nat) (a : α)
    (h : outcome (n + 1) = .ok a) : initialFailures outcome ≤ n :=
  iInf₂_le n ⟨a, h⟩

-- Failures are counted by how many attempts in a row fail from the first one on.
theorem le_initialFailures_iff (outcome : Nat → Except ε α) (k : Nat) :
    (k : ℕ∞) ≤ initialFailures outcome ↔ ∀ n, 1 ≤ n → n ≤ k → ∃ e, outcome n = .error e := by
  rw [initialFailures, le_iInf₂_iff]
  constructor
  · intro h n hn hle
    cases houtcome : outcome n with
    | error e => exact ⟨e, rfl⟩
    | ok a =>
        -- A success at the `n`-th call leaves room for fewer than `n` failures.
        exfalso
        have hfewer := h (n - 1) ⟨a, by rw [Nat.sub_add_cancel hn, houtcome]⟩
        rw [Nat.cast_le] at hfewer
        omega
  · rintro h n ⟨a, hok⟩
    rw [Nat.cast_le]
    by_contra hlt
    rcases h (n + 1) (Nat.le_add_left 1 n) (Nat.lt_of_not_le hlt) with ⟨e, herror⟩
    rw [hok] at herror
    exact absurd herror (by simp only [reduceCtorEq, not_false_eq_true])

/-- The attempts end with the first success, if it comes before the limit, and otherwise
    with the failure at the limit. -/
theorem Retried.Settled.ok_or_error {limit : Nat} {outcome : Nat → Except ε α}
    {r : Retried ε α} (h : r.Settled limit outcome) :
    (∃ (f : Nat) (a : α), initialFailures outcome = f ∧ f < limit ∧ outcome (f + 1) = .ok a ∧
        r = ⟨.ok a, f + 1⟩) ∨
      ∃ e, (limit : ℕ∞) ≤ initialFailures outcome ∧ outcome limit = .error e ∧
        r = ⟨.error e, limit⟩ := by
  rcases r with ⟨result, calls⟩
  have hlast : result = outcome calls := h.last
  cases result with
  | ok a =>
      rcases Nat.exists_eq_add_of_le' h.first with ⟨f, hcalls⟩
      simp only at hcalls
      subst hcalls
      refine .inl ⟨f, a, le_antisymm (initialFailures_le outcome f a hlast.symm) ?_, h.limited,
        hlast.symm, rfl⟩
      exact (le_initialFailures_iff outcome f).mpr fun n hn hle =>
        h.failed n hn (Nat.lt_succ_of_le hle)
  | error e =>
      have hcalls : calls = limit := h.exhausted e rfl
      subst hcalls
      refine .inr ⟨e, (le_initialFailures_iff outcome calls).mpr fun n hn hle => ?_, hlast.symm,
        rfl⟩
      rcases Nat.lt_or_eq_of_le hle with hlt | rfl
      · exact h.failed n hn hlt
      · exact ⟨e, hlast.symm⟩

/-- Where the attempts stand between two rounds. -/
inductive Retrying (ε α : Type) where
  /-- They go on with a counter, after the calls that were made. -/
  | underway (attempt : UInt32) (made : Nat)
  /-- They have ended. -/
  | ended (r : Retried ε α)
  /-- The counter had to count past its last value. -/
  | overflowed

namespace Retrying

variable (attempts : UInt32) (outcome : Nat → Except ε α)

/-- One round: a call, and unless it is the last one, counting up. -/
def round : Retrying ε α → Retrying ε α
  | .underway attempt made =>
    match outcome (made + 1) with
    | .ok a => .ended ⟨.ok a, made + 1⟩
    | .error e =>
      if attempt ≥ attempts then .ended ⟨.error e, made + 1⟩
      else if attempt.toNat + 1 < 2 ^ 32 then .underway (attempt + 1) (made + 1)
      else .overflowed
  | .ended r => .ended r
  | .overflowed => .overflowed

/-- Where the attempts stand after a number of rounds. The counter starts at one. -/
def after : Nat → Retrying ε α
  | 0 => .underway 1 0
  | rounds + 1 => (after rounds).round attempts outcome

/-- What is known of the attempts after a number of rounds. -/
inductive Stands : Nat → Retrying ε α → Prop where
  /-- They go on with a counter that is one ahead, towards the same end. -/
  | underway (attempt : UInt32) (made : Nat) (hcounter : attempt.toNat = made + 1)
      (hrest : retryFrom attempts outcome attempt made = retry attempts outcome) :
      Stands made (.underway attempt made)
  /-- All calls were made. -/
  | ended (rounds : Nat) (hcalls : (retry attempts outcome).calls ≤ rounds) :
      Stands rounds (.ended (retry attempts outcome))

/-- A counter below the number of attempts has a next value. -/
theorem round_of_lt (attempt : UInt32) (made : Nat) (e : ε)
    (herror : outcome (made + 1) = .error e) (hlt : attempt < attempts) :
    (underway attempt made).round attempts outcome = .underway (attempt + 1) (made + 1) := by
  have hbelow : attempt.toNat < attempts.toNat := hlt
  have hlimit : attempts.toNat < 2 ^ 32 := attempts.toNat_lt
  have hbound : attempt.toNat + 1 < 2 ^ 32 := Nat.lt_of_le_of_lt hbelow hlimit
  have hleft : ¬ attempt ≥ attempts := Nat.not_le_of_lt hbelow
  simp only [round, herror, if_neg hleft, if_pos hbound]

/-- A round keeps the end in sight. -/
theorem stands_round (rounds : Nat) (s : Retrying ε α) (h : Stands attempts outcome rounds s) :
    Stands attempts outcome (rounds + 1) (s.round attempts outcome) := by
  cases h with
  | ended rounds hcalls => exact .ended _ (Nat.le_succ_of_le hcalls)
  | underway attempt rounds hcounter hrest =>
      cases houtcome : outcome (rounds + 1) with
      | ok a =>
          rw [retryFrom_of_ok attempts outcome attempt rounds a houtcome] at hrest
          simp only [round, houtcome, hrest]
          exact .ended _ (by rw [← hrest])
      | error e =>
          by_cases hlt : attempt < attempts
          · rw [retryFrom_of_lt attempts outcome attempt rounds e houtcome hlt] at hrest
            rw [round_of_lt attempts outcome attempt rounds e houtcome hlt]
            exact .underway _ _ (by rw [toNat_counter_succ hlt, hcounter]) hrest
          · have hge : attempt ≥ attempts := Nat.le_of_not_lt hlt
            rw [retryFrom_of_ge attempts outcome attempt rounds e houtcome hge] at hrest
            simp only [round, houtcome, if_pos hge, hrest]
            exact .ended _ (by rw [← hrest])

/-- Every round keeps what stands, so it stands after any number of them. -/
theorem stands_after (rounds : Nat) :
    Stands attempts outcome rounds (after attempts outcome rounds) := by
  induction rounds with
  | zero => exact .underway 1 0 rfl rfl
  | succ rounds ih => exact stands_round attempts outcome rounds _ ih

/-- Another call is made, whatever the counter shows. -/
theorem lt_calls_retryFrom (attempt : UInt32) (made : Nat) :
    made < (retryFrom attempts outcome attempt made).calls := by
  induction attempt, made using retryFrom.induct attempts outcome with
  | case1 attempt made a hok =>
      rw [retryFrom_of_ok attempts outcome attempt made a hok]
      exact Nat.lt_succ_self made
  | case2 attempt made e herror hleft ih =>
      rw [retryFrom_of_lt attempts outcome attempt made e herror hleft]
      exact Nat.lt_of_succ_lt ih
  | case3 attempt made e herror hnone =>
      rw [retryFrom_of_ge attempts outcome attempt made e herror (Nat.le_of_not_lt hnone)]
      exact Nat.lt_succ_self made

/-- While calls are left to be made, the loop is underway, and counts them. -/
theorem after_of_lt (rounds : Nat) (h : rounds < (retry attempts outcome).calls) :
    ∃ attempt : UInt32, attempt.toNat = rounds + 1 ∧
      after attempts outcome rounds = .underway attempt rounds ∧
      retryFrom attempts outcome attempt rounds = retry attempts outcome := by
  have hstands := stands_after attempts outcome rounds
  generalize after attempts outcome rounds = s at hstands ⊢
  cases hstands with
  | underway attempt rounds hcounter hrest => exact ⟨attempt, hcounter, rfl, hrest⟩
  | ended rounds hcalls => exact absurd h (Nat.not_lt_of_le hcalls)

/-- Once all calls are made, the loop has ended, and stays so. -/
theorem after_of_le (rounds : Nat) (h : (retry attempts outcome).calls ≤ rounds) :
    after attempts outcome rounds = .ended (retry attempts outcome) := by
  have hstands := stands_after attempts outcome rounds
  generalize after attempts outcome rounds = s at hstands ⊢
  cases hstands with
  | ended rounds hcalls => rfl
  | underway attempt rounds hcounter hrest =>
      have hmore := lt_calls_retryFrom attempts outcome attempt rounds
      rw [hrest] at hmore
      exact absurd h (Nat.not_le_of_lt hmore)

end Retrying

/-- How often an operation is tried, and what comes of it. -/
structure TriesExactly (attempts : UInt32) (outcome : Nat → Except ε α) : Prop where
  -- It is called until its first success, but not more often than there are attempts,
  -- of which there is at least one.
  calls : ((retry attempts outcome).calls : ℕ∞) =
    min (initialFailures outcome + 1) (max attempts.toNat 1 : Nat)
  -- If the first success comes within the attempts, it is the result,
  succeeds : ∀ f : Nat, initialFailures outcome = f → f < max attempts.toNat 1 →
    ∃ a, outcome (f + 1) = .ok a ∧ (retry attempts outcome).result = .ok a
  -- and otherwise the result is the error of the last call.
  fails : (max attempts.toNat 1 : Nat) ≤ initialFailures outcome →
    ∃ e, outcome (retry attempts outcome).calls = .error e ∧
      (retry attempts outcome).result = .error e
  -- Every call takes one round. Before it the counter is one ahead of the calls, and the
  -- attempts from there on are those that are left.
  underway : ∀ made < (retry attempts outcome).calls, ∃ attempt : UInt32,
    attempt.toNat = made + 1 ∧ Retrying.after attempts outcome made = .underway attempt made ∧
      retryFrom attempts outcome attempt made = retry attempts outcome
  -- With the last call the attempts have ended,
  ended : ∀ rounds, (retry attempts outcome).calls ≤ rounds →
    Retrying.after attempts outcome rounds = .ended (retry attempts outcome)
  -- and in no round has the counter overflowed.
  counts : ∀ rounds, Retrying.after attempts outcome rounds ≠ .overflowed

/-- Whatever the number of attempts, and however often the operation fails. -/
theorem retry_triesExactly (attempts : UInt32) (outcome : Nat → Except ε α) :
    TriesExactly attempts outcome where
  calls := by
    rcases (retry_settled attempts outcome).ok_or_error with
      ⟨f, a, hfailures, hlt, _, hretry⟩ | ⟨e, hfailures, _, hretry⟩
    · rw [hretry, hfailures, ← Nat.cast_succ, min_eq_left (Nat.cast_le.mpr hlt)]
    · rw [hretry, min_eq_right (le_trans hfailures le_self_add)]
  succeeds f hf hwithin := by
    rcases (retry_settled attempts outcome).ok_or_error with
      ⟨f', a, hfailures, _, hok, hretry⟩ | ⟨e, hfailures, _, _⟩
    · have hsame : f' = f := Nat.cast_injective (hfailures.symm.trans hf)
      rw [hsame] at hok
      exact ⟨a, hok, by rw [hretry]⟩
    · rw [hf, Nat.cast_le] at hfailures
      exact absurd hwithin (Nat.not_lt_of_le hfailures)
  fails hnone := by
    rcases (retry_settled attempts outcome).ok_or_error with
      ⟨f, a, hfailures, hlt, _, _⟩ | ⟨e, _, herror, hretry⟩
    · rw [hfailures, Nat.cast_le] at hnone
      exact absurd hlt (Nat.not_lt_of_le hnone)
    · exact ⟨e, by rw [hretry, herror], by rw [hretry]⟩
  underway := Retrying.after_of_lt attempts outcome
  ended := Retrying.after_of_le attempts outcome
  counts rounds h := by
    have hstands := Retrying.stands_after attempts outcome rounds
    rw [h] at hstands
    cases hstands

-- The largest number of attempts is also the last value of the counter. Where the counter
-- shows it, a failure ends the attempts, and nothing is counted up.
example (made e : Nat) :
    (Retrying.underway 4294967295 made).round 4294967295
        (fun _ => (.error e : Except Nat Nat)) = .ended ⟨.error e, made + 1⟩ :=
  rfl

end Cosigner
