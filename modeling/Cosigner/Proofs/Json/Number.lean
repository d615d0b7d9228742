import Cosigner.Json.Printer
import Cosigner.Json.Reader
import Mathlib.Tactic.IntervalCases

/-!
# Numbers in JSON

A number is kept as its digits, so reading one back has to find where each run of
digits ends. It ends in front of whatever is no digit, and what may stand behind a
number is named once: the point and the exponent of the same number, or else what
stands behind any value, `Closes`.

A number is proper if it is such as the grammar has it. The digits before the point
have no zero in front, and where there is a point or an exponent there are digits.
Natural numbers are written properly, since the digits of a number in any base
start with another digit than zero, and the digits give the number back.

## Main definitions

* `Digits.IsDecimal`: One decimal digit or more.
* `Json.Closes`: What may stand behind a value.
* `Json.Numeral.Proper`: A number such as the grammar has it.

## Theorems

* `Digits.toNat_ofNat`: The digits of a number stand for it.
* `Json.unsigned?_print`: A proper number is read back, its sign aside.
* `Json.Numeral.proper_ofNat`, `Json.Numeral.natural?_ofNat`: Natural numbers are
    written properly, and are the values of what is written.
-/

namespace Cosigner

namespace Digits

/-- Digits in front of others only prepare the number that the others go on from. -/
theorem foldl_ofNatOnto (base : Nat) (hbase : 1 < base) (n : Nat) (tail : List Nat) :
    (ofNatOnto base n tail).foldl (fun n d => base * n + d) 0 =
      tail.foldl (fun n d => base * n + d) n := by
  fun_induction ofNatOnto base n tail with
  | case1 n tail hstop =>
      have hn : n = 0 := hstop.resolve_right (by omega)
      rw [hn]
  | case2 n tail hgo ih =>
      rw [ih, List.foldl_cons, Nat.div_add_mod]

/-- The digits of a number stand for it. -/
theorem toNat_ofNat (base : Nat) (hbase : 1 < base) (n : Nat) : toNat base (ofNat base n) = n := by
  rw [toNat, ofNat, foldl_ofNatOnto base hbase]
  rfl

-- Digits are written by repeated division, so none reaches the base.
theorem lt_of_mem_ofNatOnto (base : Nat) (n : Nat) (tail : List Nat)
    (htail : ∀ d ∈ tail, d < base) : ∀ d ∈ ofNatOnto base n tail, d < base := by
  fun_induction ofNatOnto base n tail with
  | case1 n tail hstop => exact htail
  | case2 n tail hgo ih =>
      refine ih fun d hd => ?_
      rcases List.mem_cons.mp hd with rfl | hd
      · exact Nat.mod_lt n (by omega)
      · exact htail d hd

/-- The digits of a number other than zero start with another digit than zero. -/
theorem ofNatOnto_eq_cons (base : Nat) (hbase : 1 < base) (n : Nat) (hn : n ≠ 0)
    (tail : List Nat) : ∃ d ds, ofNatOnto base n tail = d :: ds ∧ d ≠ 0 := by
  fun_induction ofNatOnto base n tail with
  | case1 n tail hstop => exact absurd (hstop.resolve_right (by omega)) hn
  | case2 n tail hgo ih =>
      by_cases hlast : n / base = 0
      · -- A single digit is left, and it is the number itself.
        have hmod : n % base = n := Nat.mod_eq_of_lt ((Nat.div_eq_zero_iff_lt (by omega)).mp hlast)
        refine ⟨n % base, tail, ?_, by omega⟩
        rw [ofNatOnto, dif_pos (.inl hlast)]
      · exact ih hlast

/-- One decimal digit or more. -/
structure IsDecimal (ds : List Nat) : Prop where
  -- There is some digit.
  nonempty : ds ≠ []
  -- The digits are decimal ones.
  lt : ∀ d ∈ ds, d < 10

end Digits

namespace Json

/-- What may stand behind a value: nothing, a comma or a closing bracket. -/
inductive Closes : Bytes → Prop where
  | nil : Closes []
  | comma (rest : Bytes) : Closes (44 :: rest)
  | bracket (rest : Bytes) : Closes (93 :: rest)
  | brace (rest : Bytes) : Closes (125 :: rest)

/-- A number such as the grammar has it. -/
structure Numeral.Proper (n : Numeral) : Prop where
  -- There are digits before the point.
  whole : Digits.IsDecimal n.whole
  -- A zero in front of them stands alone.
  leading : ∀ d ds, n.whole ≠ 0 :: d :: ds
  -- There are digits after the point.
  fraction : ∀ ds, n.fraction = some ds → Digits.IsDecimal ds
  -- There are digits in the exponent.
  exponent : ∀ negative ds, n.exponent = some (negative, ds) → Digits.IsDecimal ds

/-- The point and the digits after it. -/
def printFraction : Option (List Nat) → Bytes
  | some ds => 46 :: printDigits ds
  | none => []

/-- The exponent with its letter. -/
def printExponent : Option (Bool × List Nat) → Bytes
  | some (negative, ds) => 101 :: (if negative then [45] else []) ++ printDigits ds
  | none => []

/-- A number in its parts: sign, digits, point and exponent. -/
theorem Numeral.print_eq (n : Numeral) : n.print = (if n.negative then [45] else []) ++
    (printDigits n.whole ++ (printFraction n.fraction ++ printExponent n.exponent)) := by
  rw [Numeral.print, List.append_assoc, List.append_assoc]
  rfl

/-- Decimal digits are written as characters that are read as the same digits. -/
theorem decimal?_digit : ∀ d < 10, Digits.decimal? (UInt8.ofNat (48 + d)) = some d := by
  decide

theorem printDigits_cons (d : Nat) (ds : List Nat) :
    printDigits (d :: ds) = UInt8.ofNat (48 + d) :: printDigits ds := rfl

/-- Digits end in front of whatever is no digit. -/
theorem digits_printDigits (ds : List Nat) (hds : ∀ d ∈ ds, d < 10) (rest : Bytes)
    (hrest : digits rest = ([], rest)) : digits (printDigits ds ++ rest) = (ds, rest) := by
  induction ds with
  | nil => exact hrest
  | cons d ds ih =>
      have hothers : digits (printDigits ds ++ rest) = (ds, rest) :=
        ih fun d hd => hds d (List.mem_cons_of_mem _ hd)
      rw [printDigits_cons, List.cons_append, digits, decimal?_digit d (hds d List.mem_cons_self),
        hothers]

/-- Digits are read back in front of anything that starts with no digit. -/
theorem someDigits?_printDigits (ds : List Nat) (hds : Digits.IsDecimal ds) (rest : Bytes)
    (hrest : digits rest = ([], rest)) :
    someDigits? (printDigits ds ++ rest) = some (ds, rest) := by
  rw [someDigits?, digits_printDigits ds hds.lt rest hrest]
  cases ds with
  | nil => exact absurd rfl hds.nonempty
  | cons d ds => rfl

-- No digit can stand where a number ends.
theorem digits_closes (rest : Bytes) (h : Closes rest) : digits rest = ([], rest) := by
  cases h <;> rfl

/-- A first digit is neither sign of an exponent. -/
theorem exponentSign_printDigits (ds : List Nat) (hds : Digits.IsDecimal ds) (rest : Bytes) :
    exponentSign (printDigits ds ++ rest) = (false, printDigits ds ++ rest) := by
  cases ds with
  | nil => exact absurd rfl hds.nonempty
  | cons d ds =>
      have hd : d < 10 := hds.lt d List.mem_cons_self
      rw [printDigits_cons, List.cons_append]
      interval_cases d <;> rfl

/-- An exponent is read back in front of whatever can follow a number. -/
theorem exponent?_printExponent (e : Option (Bool × List Nat))
    (he : ∀ negative ds, e = some (negative, ds) → Digits.IsDecimal ds) (rest : Bytes)
    (hrest : Closes rest) : exponent? (printExponent e ++ rest) = some (e, rest) := by
  rcases e with _ | ⟨negative, ds⟩
  · cases hrest <;> rfl
  have hds : Digits.IsDecimal ds := he negative ds rfl
  have hsign : exponentSign ((if negative then [45] else []) ++ printDigits ds ++ rest) =
      (negative, printDigits ds ++ rest) := by
    cases negative with
    | false => exact exponentSign_printDigits ds hds rest
    | true => rfl
  rw [printExponent, List.cons_append, List.cons_append, exponent?, if_pos (.inl rfl), hsign,
    someDigits?_printDigits ds hds rest (digits_closes rest hrest)]
  rfl

theorem digits_printExponent (e : Option (Bool × List Nat)) (rest : Bytes) (hrest : Closes rest) :
    digits (printExponent e ++ rest) = ([], printExponent e ++ rest) := by
  rcases e with _ | ⟨negative, ds⟩
  · exact digits_closes rest hrest
  · rfl

/-- The digits after the point are read back in front of an exponent. -/
theorem fraction?_printFraction (f : Option (List Nat))
    (hf : ∀ ds, f = some ds → Digits.IsDecimal ds) (e : Option (Bool × List Nat)) (rest : Bytes)
    (hrest : Closes rest) :
    fraction? (printFraction f ++ (printExponent e ++ rest)) =
      some (f, printExponent e ++ rest) := by
  rcases f with _ | ds
  · rcases e with _ | ⟨negative, ds⟩
    · cases hrest <;> rfl
    · rfl
  · rw [printFraction, List.cons_append, fraction?, someDigits?_printDigits ds (hf ds rfl) _
      (digits_printExponent e rest hrest)]
    rfl

/-- The digits before the point are read back. A leading zero has to stand alone. -/
theorem whole?_printDigits (ds : List Nat) (hds : Digits.IsDecimal ds)
    (hleading : ∀ d others, ds ≠ 0 :: d :: others) (rest : Bytes)
    (hrest : digits rest = ([], rest)) : whole? (printDigits ds ++ rest) = some (ds, rest) := by
  rw [whole?, digits_printDigits ds hds.lt rest hrest]
  split
  next heq => exact absurd (congrArg Prod.fst heq) hds.nonempty
  next heq => exact absurd (congrArg Prod.fst heq) (hleading _ _)
  next => rfl

/-- A proper number is read back, its sign aside. -/
theorem unsigned?_print (n : Numeral) (hn : n.Proper) (rest : Bytes) (hrest : Closes rest) :
    unsigned? n.negative (printDigits n.whole ++
      (printFraction n.fraction ++ (printExponent n.exponent ++ rest))) =
        some (.number n, rest) := by
  have hwhole : digits (printFraction n.fraction ++ (printExponent n.exponent ++ rest)) =
      ([], printFraction n.fraction ++ (printExponent n.exponent ++ rest)) := by
    rcases n.fraction with _ | ds
    · exact digits_printExponent n.exponent rest hrest
    · rfl
  simp only [unsigned?, whole?_printDigits n.whole hn.whole hn.leading _ hwhole,
    fraction?_printFraction n.fraction hn.fraction n.exponent rest hrest,
    exponent?_printExponent n.exponent hn.exponent rest hrest, Option.bind_eq_bind,
    Option.bind_some, Option.pure_def]

namespace Numeral

/-- Natural numbers are written properly. -/
theorem proper_ofNat (n : Nat) : (ofNat n).Proper := by
  have hparts : ∀ ds, Digits.IsDecimal ds → (∀ d others, ds ≠ 0 :: d :: others) →
      Proper ⟨false, ds, none, none⟩ := by
    intro ds hds hleading
    exact ⟨hds, hleading, fun _ h => absurd h (by simp only [reduceCtorEq, not_false_eq_true]),
      fun _ _ h => absurd h (by simp only [reduceCtorEq, not_false_eq_true])⟩
  by_cases hn : n = 0
  · rw [ofNat, if_pos hn]
    refine hparts [0] ⟨by decide, by decide⟩ fun d others h => ?_
    exact absurd h (by simp only [List.cons.injEq, reduceCtorEq, and_false, not_false_eq_true])
  · rcases Digits.ofNatOnto_eq_cons 10 (by decide) n hn [] with ⟨d, ds, heq, hd⟩
    rw [ofNat, if_neg hn]
    refine hparts (Digits.ofNat 10 n) ⟨?_, ?_⟩ fun d' others h => ?_
    · rw [Digits.ofNat, heq]
      exact List.cons_ne_nil d ds
    · exact Digits.lt_of_mem_ofNatOnto 10 n [] fun d hd => absurd hd List.not_mem_nil
    · rw [Digits.ofNat, heq] at h
      exact hd (List.cons.inj h).1

/-- A natural number is the value of what is written for it. -/
@[simp] theorem natural?_ofNat (n : Nat) : (ofNat n).natural? = some n := by
  by_cases hn : n = 0
  · rw [hn]
    rfl
  · rw [natural?, ofNat, if_neg hn]
    simp only [Option.isSome_none, Bool.or_self, Bool.false_eq_true, if_false,
      Digits.toNat_ofNat 10 (by decide)]

end Numeral

end Json

end Cosigner
