import Cosigner.Ledger.Query
import Mathlib.Data.List.Forall2

/-!
# Outcomes of Steps in Sequence

A step that may be refused comes out as a value or as an error. Everything the
co-signer does is such steps in sequence, so a proof about a success starts by
asking what each step must have come out with. The lemmas here answer that
once, for plain outcomes and for queries, and later proofs take a success apart
without unfolding how steps are chained.

A list of steps succeeds exactly if every single one does. `List.Forall₂` says
this for the entries and the values side by side, so that positions are kept. It
fails with the error of the first entry that fails, and what comes behind that
entry has no say; `Outcome.FirstFailure` says this.

Two computations that do the same thing with different means have outcomes that
match: related values, or related errors. Matching is kept by sequences and by
lists of steps, so it is shown for the smallest steps and carried up from there.

## Main definitions

* `Outcome.FirstFailure`: The first entry of a list at which a step fails.
* `Outcome.Match`: Two outcomes with related values or related errors.

## Theorems

* `Outcome.bind_eq_ok`: A sequence succeeds through a success of its first
  step.
* `Outcome.mapError_eq_ok`: Renaming errors does not touch successes.
* `Outcome.ite_error_eq_ok`: A guard is passed exactly if its condition fails.
* `Outcome.mapM_eq_ok`: A list of steps succeeds entry by entry.
* `Outcome.mapM_range_eq_ok`: The same for a step for each number below a bound.
* `Outcome.mapM_append_eq_ok`: Two lists of steps in a row.
* `Outcome.mapM_eq_error`: A list of steps fails with the first failure in it.
* `Outcome.firstFailure_of_pairwise`: The first failure in an ascending list.
* `Outcome.mapM_eq_error_of_fault`: The same, with the error of each step as a function.
* `Outcome.mapM_eq_error_of_bad`: The same for steps that fail on bad entries only.
* `Outcome.bind_eq_error_of_fault`: Two steps, with the error of each as a function.
* `Outcome.cons_eq_error_of_bad`: A step for the first entry and steps for the rest.
* `Outcome.Match.bind`, `Outcome.match_mapM`: Outcomes that match, carried up.
* `Query.bind_of_ok`, `Query.bind_of_error`: Queries in sequence.
* `Query.result_bind`: The result of queries in sequence.
* `Query.result_forAll_eq_ok`: Queries side by side succeed entry by entry.
* `Query.result_forAll_eq_error`: Queries side by side fail with the first failure
  among them.
-/

namespace Cosigner

namespace Outcome

variable {ε ε' α β : Type}

/-- An outcome has no second error. -/
theorem error_unique (x : Except ε α) (e : ε) (h : x = .error e) :
    ∀ e', x = .error e' → e' = e := by
  intro e' h'
  rw [h, Except.error.injEq] at h'
  exact h'.symm

/-- A sequence succeeds exactly if both steps do, the second with the value of the first.
    -/
theorem bind_eq_ok (x : Except ε α) (f : α → Except ε β) (b : β) :
    x >>= f = .ok b ↔ ∃ a, x = .ok a ∧ f a = .ok b := by
  cases x with
  | error e =>
      simp only [bind, Except.bind, reduceCtorEq, false_and, exists_false]
  | ok a =>
      simp only [bind, Except.bind, Except.ok.injEq, exists_eq_left']

theorem map_eq_ok (f : α → β) (x : Except ε α) (b : β) :
    f <$> x = .ok b ↔ ∃ a, x = .ok a ∧ f a = b := by
  cases x with
  | error e =>
      simp only [Functor.map, Except.map, reduceCtorEq, false_and, exists_false]
  | ok a =>
      simp only [Functor.map, Except.map, Except.ok.injEq, exists_eq_left']

/-- Renaming errors leaves the successes alone, and makes none. -/
theorem mapError_eq_ok (f : ε → ε') (x : Except ε α) (a : α) :
    x.mapError f = .ok a ↔ x = .ok a := by
  cases x with
  | error e => simp only [Except.mapError, reduceCtorEq]
  | ok b => simp only [Except.mapError, Except.ok.injEq]

theorem pure_eq_ok (a b : α) : (pure a : Except ε α) = .ok b ↔ a = b := by
  simp only [pure, Except.pure, Except.ok.injEq]

@[simp] theorem throw_eq (e : ε) : (throw e : Except ε α) = .error e := rfl

@[simp] theorem error_bind (e : ε) (f : α → Except ε β) :
    ((.error e : Except ε α) >>= f) = .error e := rfl

/-- A guard in front of a step is passed exactly if its condition fails. -/
theorem ite_error_eq_ok (c : Prop) [Decidable c] (e : ε) (x : Except ε α) (a : α) :
    (if c then .error e else x) = .ok a ↔ ¬ c ∧ x = .ok a := by
  by_cases h : c
  · simp only [h, if_true, reduceCtorEq, not_true, false_and]
  · simp only [h, if_false, not_false_eq_true, true_and]

/-- The same for a guard whose condition has to hold. -/
theorem ite_else_error_eq_ok (c : Prop) [Decidable c] (e : ε) (x : Except ε α) (a : α) :
    (if c then x else .error e) = .ok a ↔ c ∧ x = .ok a := by
  by_cases h : c
  · simp only [h, if_true, true_and]
  · simp only [h, if_false, reduceCtorEq, false_and]

/-- A list of steps succeeds exactly if each of them does. -/
theorem mapM_eq_ok (f : α → Except ε β) (xs : List α) (ys : List β) :
    xs.mapM f = .ok ys ↔ List.Forall₂ (fun x y => f x = .ok y) xs ys := by
  induction xs generalizing ys with
  | nil =>
      rw [List.mapM_nil, pure_eq_ok, List.forall₂_nil_left_iff]
      exact eq_comm
  | cons x xs ih =>
      rw [List.mapM_cons, bind_eq_ok, List.forall₂_cons_left_iff]
      constructor
      · intro h
        rcases h with ⟨y, hy, hrest⟩
        rcases (bind_eq_ok _ _ _).mp hrest with ⟨zs, hzs, heq⟩
        exact ⟨y, zs, hy, (ih zs).mp hzs, ((pure_eq_ok _ _).mp heq).symm⟩
      · intro h
        rcases h with ⟨y, zs, hy, hzs, heq⟩
        exact ⟨y, hy, (bind_eq_ok _ _ _).mpr ⟨zs, (ih zs).mpr hzs,
          (pure_eq_ok _ _).mpr heq.symm⟩⟩

/-- The step at a place has its value at the same place. -/
theorem getElem?_of_forall₂ (R : α → β → Prop) (xs : List α) (ys : List β)
    (h : List.Forall₂ R xs ys) (n : Nat) (x : α) (hx : xs[n]? = some x) :
    ∃ y, ys[n]? = some y ∧ R x y := by
  rcases List.getElem?_eq_some_iff.mp hx with ⟨hlt, rfl⟩
  have hlt' : n < ys.length := h.length_eq ▸ hlt
  exact ⟨ys[n], List.getElem?_eq_getElem hlt', h.get hlt hlt'⟩

/-- A step for each number below a bound. -/
theorem mapM_range_eq_ok (f : Nat → Except ε β) (n : Nat) (ys : List β) :
    (List.range n).mapM f = .ok ys ↔
      ys.length = n ∧ ∀ place y, ys[place]? = some y → f place = .ok y := by
  rw [mapM_eq_ok, List.forall₂_iff_get]
  constructor
  · intro h
    rcases h with ⟨hlength, hstep⟩
    refine ⟨by rw [← hlength, List.length_range], fun place y hy => ?_⟩
    rcases List.getElem?_eq_some_iff.mp hy with ⟨hplace, rfl⟩
    have hvalue := hstep place (by rwa [hlength]) hplace
    rwa [List.get_eq_getElem, List.getElem_range] at hvalue
  · intro h
    rcases h with ⟨hlength, hstep⟩
    refine ⟨by rw [hlength, List.length_range], fun place hrange hplace => ?_⟩
    rw [List.get_eq_getElem, List.getElem_range]
    exact hstep place _ (List.getElem?_eq_getElem hplace)

/-- Every value of a list of steps belongs to some step. -/
theorem mem_of_forall₂_right (R : α → β → Prop) (xs : List α) (ys : List β)
    (h : List.Forall₂ R xs ys) (y : β) (hy : y ∈ ys) : ∃ x ∈ xs, R x y := by
  induction h with
  | nil => exact absurd hy List.not_mem_nil
  | cons hxy _ ih =>
      rcases List.mem_cons.mp hy with rfl | hrest
      · exact ⟨_, List.mem_cons_self, hxy⟩
      · rcases ih hrest with ⟨x, hx, hR⟩
        exact ⟨x, List.mem_cons_of_mem _ hx, hR⟩

/-- A list of steps has values if each of them does. -/
theorem exists_forall₂ (R : α → β → Prop) (xs : List α) :
    (∃ ys, List.Forall₂ R xs ys) ↔ ∀ x ∈ xs, ∃ y, R x y := by
  induction xs with
  | nil => exact ⟨fun _ => List.forall_mem_nil _, fun _ => ⟨[], .nil⟩⟩
  | cons x xs ih =>
      rw [List.forall_mem_cons, ← ih]
      constructor
      · intro h
        rcases h with ⟨_, hall⟩
        rcases List.forall₂_cons_left_iff.mp hall with ⟨y, ys, hxy, hrest, _⟩
        exact ⟨⟨y, hxy⟩, ys, hrest⟩
      · intro h
        rcases h with ⟨⟨y, hxy⟩, ys, hrest⟩
        exact ⟨y :: ys, .cons hxy hrest⟩

/-- A list of steps succeeds if each of them does. -/
theorem mapM_isOk (f : α → Except ε β) (xs : List α) :
    (∃ ys, xs.mapM f = .ok ys) ↔ ∀ x ∈ xs, ∃ y, f x = .ok y := by
  simp only [mapM_eq_ok, exists_forall₂]

/-- Two lists of steps in a row. -/
theorem mapM_append_eq_ok (f : α → Except ε β) (xs more : List α) (ys : List β) :
    (xs ++ more).mapM f = .ok ys ↔
      ∃ first others, xs.mapM f = .ok first ∧ more.mapM f = .ok others ∧ ys = first ++ others := by
  simp only [List.mapM_append, bind_eq_ok, pure_eq_ok, eq_comm (b := ys)]
  constructor
  · intro h
    rcases h with ⟨first, hfirst, others, hothers, hys⟩
    exact ⟨first, others, hfirst, hothers, hys⟩
  · intro h
    rcases h with ⟨first, others, hfirst, hothers, hys⟩
    exact ⟨first, hfirst, others, hothers, hys⟩

/-- Steps in a row, entry by entry. -/
theorem forall₂_comp {γ : Type} (R : α → β → Prop) (S : β → γ → Prop) (xs : List α) (ys : List β)
    (zs : List γ) (h : List.Forall₂ R xs ys) (h' : List.Forall₂ S ys zs) :
    List.Forall₂ (fun x z => ∃ y, R x y ∧ S y z) xs zs := by
  induction h generalizing zs with
  | nil =>
      rw [List.forall₂_nil_left_iff.mp h']
      exact .nil
  | cons hxy _ ih =>
      rcases List.forall₂_cons_left_iff.mp h' with ⟨z, rest, hyz, hrest, rfl⟩
      exact .cons ⟨_, hxy, hyz⟩ (ih rest hrest)

/-- A sequence fails with its first step, or with its second behind a success of the
    first. -/
theorem bind_eq_error (x : Except ε α) (f : α → Except ε β) (e : ε) :
    x >>= f = .error e ↔ x = .error e ∨ ∃ a, x = .ok a ∧ f a = .error e := by
  cases x with
  | error e' =>
      simp only [bind, Except.bind, Except.error.injEq, reduceCtorEq, false_and, exists_false,
        or_false]
  | ok a => simp only [bind, Except.bind, reduceCtorEq, Except.ok.injEq, exists_eq_left', false_or]

/-- Each error comes from one that was renamed. -/
theorem mapError_eq_error (f : ε → ε') (x : Except ε α) (e : ε') :
    x.mapError f = .error e ↔ ∃ e₀, x = .error e₀ ∧ f e₀ = e := by
  cases x with
  | error e₀ => simp only [Except.mapError, Except.error.injEq, exists_eq_left']
  | ok a => simp only [Except.mapError, reduceCtorEq, false_and, exists_false]

theorem map_eq_error (f : α → β) (x : Except ε α) (e : ε) :
    f <$> x = .error e ↔ x = .error e := by
  cases x with
  | error e' => simp only [Functor.map, Except.map, Except.error.injEq]
  | ok a => simp only [Functor.map, Except.map, reduceCtorEq]

theorem pure_ne_error (a : α) (e : ε) : (pure a : Except ε α) ≠ .error e := by
  simp only [pure, Except.pure, ne_eq, reduceCtorEq, not_false_eq_true]

-- What is done with the value of a step afterwards does not fail.
theorem bind_pure_eq_error (x : Except ε α) (g : α → β) (e : ε) :
    (x >>= fun a => pure (g a)) = .error e ↔ x = .error e := by
  simp only [bind_eq_error, pure_ne_error, and_false, exists_false, or_false]

/-- The error of the first entry of a list at which a step fails. -/
def FirstFailure (f : α → Except ε β) (xs : List α) (e : ε) : Prop :=
  ∃ before x after, xs = before ++ x :: after ∧ (∀ y ∈ before, ∃ b, f y = .ok b) ∧
    f x = .error e

theorem firstFailure_nil (f : α → Except ε β) (e : ε) : ¬ FirstFailure f [] e := by
  intro h
  rcases h with ⟨before, x, after, hsplit, _⟩
  exact absurd hsplit.symm (List.append_ne_nil_of_right_ne_nil _ (List.cons_ne_nil _ _))

/-- The first failure of a list is at its first entry, or behind it if that one succeeds.
    -/
theorem firstFailure_cons (f : α → Except ε β) (x : α) (xs : List α) (e : ε) :
    FirstFailure f (x :: xs) e ↔
      f x = .error e ∨ (∃ b, f x = .ok b) ∧ FirstFailure f xs e := by
  constructor
  · intro h
    rcases h with ⟨before, y, after, hsplit, hbefore, hy⟩
    cases before with
    | nil =>
        rw [List.nil_append, List.cons.injEq] at hsplit
        rw [hsplit.1]
        exact .inl hy
    | cons z before =>
        rw [List.cons_append, List.cons.injEq] at hsplit
        rw [List.forall_mem_cons, ← hsplit.1] at hbefore
        exact .inr ⟨hbefore.1, before, y, after, hsplit.2, hbefore.2, hy⟩
  · intro h
    rcases h with hx | ⟨hx, before, y, after, hsplit, hbefore, hy⟩
    · exact ⟨[], x, xs, rfl, List.forall_mem_nil _, hx⟩
    · refine ⟨x :: before, y, after, by rw [hsplit, List.cons_append], ?_, hy⟩
      exact List.forall_mem_cons.mpr ⟨hx, hbefore⟩

/-- A list of steps fails with the error of the first of them that fails. -/
theorem mapM_eq_error (f : α → Except ε β) (xs : List α) (e : ε) :
    xs.mapM f = .error e ↔ FirstFailure f xs e := by
  induction xs with
  | nil =>
      simp only [List.mapM_nil, pure_ne_error, firstFailure_nil]
  | cons x xs ih =>
      rw [List.mapM_cons, bind_eq_error, firstFailure_cons, ← ih]
      refine or_congr_right ?_
      constructor
      · intro h
        rcases h with ⟨b, hx, hrest⟩
        rcases (bind_eq_error _ _ _).mp hrest with hrest | ⟨bs, _, hc⟩
        · exact ⟨⟨b, hx⟩, hrest⟩
        · exact absurd hc (pure_ne_error _ _)
      · intro h
        rcases h with ⟨⟨b, hx⟩, hrest⟩
        exact ⟨b, hx, (bind_eq_error _ _ _).mpr (.inl hrest)⟩

/-- Outcomes with the same value and the same error are equal. -/
theorem ext (x y : Except ε α) (hok : ∀ a, x = .ok a ↔ y = .ok a)
    (herror : ∀ e, x = .error e ↔ y = .error e) : x = y := by
  cases x with
  | error e => exact ((herror e).mp rfl).symm
  | ok a => exact ((hok a).mp rfl).symm

/-- In an ascending list, the first entry at which a step fails is the smallest such
    entry. -/
theorem firstFailure_of_pairwise (R : α → α → Prop) (hasymm : ∀ x y, R x y → ¬ R y x)
    (f : α → Except ε β) (xs : List α) (hsorted : xs.Pairwise R) (e : ε) :
    FirstFailure f xs e ↔
      ∃ x ∈ xs, f x = .error e ∧ ∀ y ∈ xs, R y x → ∃ b, f y = .ok b := by
  constructor
  · intro h
    rcases h with ⟨before, x, after, rfl, hbefore, hx⟩
    refine ⟨x, List.mem_append_right _ List.mem_cons_self, hx, fun y hy hless => ?_⟩
    rcases List.mem_append.mp hy with hy | hy
    · exact hbefore y hy
    · -- What stands behind the entry, or is the entry, is not less than it.
      rcases List.mem_cons.mp hy with rfl | hy
      · exact absurd hless (hasymm y y hless)
      · have hafter := (List.pairwise_cons.mp (List.pairwise_append.mp hsorted).2.1).1 y hy
        exact absurd hless (hasymm x y hafter)
  · intro h
    rcases h with ⟨x, hmem, hx, hless⟩
    rcases List.append_of_mem hmem with ⟨before, after, rfl⟩
    refine ⟨before, x, after, rfl, fun y hy => ?_, hx⟩
    have hbefore := (List.pairwise_append.mp hsorted).2.2 y hy x List.mem_cons_self
    exact hless y (List.mem_append_left _ hy) hbefore

-- There is no third way to come out.
theorem isOk_iff (x : Except ε α) : (∃ a, x = .ok a) ↔ ∀ e, x ≠ .error e := by
  cases x with
  | error e =>
      simp only [reduceCtorEq, exists_false, ne_eq, Except.error.injEq, false_iff, not_forall,
        not_not, exists_eq']
  | ok a => simp only [Except.ok.injEq, exists_eq', ne_eq, reduceCtorEq, not_false_eq_true,
      implies_true]

/-- If a step alone decides with which error it fails, a list of steps fails with the
    first error that one of them decides on. -/
theorem mapM_eq_error_of_fault (f : α → Except ε β) (fault : α → Option ε)
    (hfault : ∀ x e, f x = .error e ↔ fault x = some e) (xs : List α) (e : ε) :
    xs.mapM f = .error e ↔ xs.findSome? fault = some e := by
  induction xs with
  | nil => simp only [List.mapM_nil, pure_ne_error, List.findSome?_nil, reduceCtorEq]
  | cons x xs ih =>
      rw [mapM_eq_error, firstFailure_cons, ← mapM_eq_error, ih, isOk_iff, List.findSome?_cons]
      simp only [hfault, ne_eq]
      cases fault x with
      | none => simp only [reduceCtorEq, not_false_eq_true, implies_true, true_and, false_or]
      | some e' =>
          simp only [Option.some.injEq, forall_eq', false_and, or_false]

/-- If a step fails for the entries with some property and only for them, each with an
    error of its own, a list of steps fails with the error of the first such entry. -/
theorem mapM_eq_error_of_bad (f : α → Except ε β) (bad : α → Bool) (report : α → ε)
    (hbad : ∀ x e, f x = .error e ↔ bad x = true ∧ report x = e) (xs : List α) (e : ε) :
    xs.mapM f = .error e ↔ (xs.find? bad).map report = some e := by
  have hfault : ∀ x e', f x = .error e' ↔ (Option.guard bad x).map report = some e' := by
    intro x e'
    rw [hbad, Option.map_eq_some_iff]
    simp only [Option.guard_eq_some_iff, and_assoc, exists_eq_left']
  rw [mapM_eq_error_of_fault f _ hfault, ← List.findSome?_guard, List.map_findSome?]
  rfl

/-- If each of two steps in sequence alone decides with which error it fails, the
    sequence fails with the error of the first, and else with that of the second. -/
theorem bind_eq_error_of_fault (x : Except ε α) (f : α → Except ε β) (first second : Option ε)
    (hfirst : ∀ e, x = .error e ↔ first = some e)
    (hsecond : ∀ a, x = .ok a → ∀ e, f a = .error e ↔ second = some e) (e : ε) :
    x >>= f = .error e ↔ first.or second = some e := by
  cases x with
  | error e' =>
      rw [(hfirst e').mp rfl, Option.some_or, error_bind, Except.error.injEq, Option.some.injEq]
  | ok a =>
      have hnone : first = none := by
        refine Option.eq_none_iff_forall_ne_some.mpr fun e' he' => ?_
        exact absurd ((hfirst e').mpr he') (by simp only [reduceCtorEq, not_false_eq_true])
      rw [hnone, Option.none_or, ← hsecond a rfl e]
      rfl

/-- One step for the first entry of a list and another for each of the others, all of
    which fail for bad entries only: they fail with the error of the first bad entry. -/
theorem cons_eq_error_of_bad {γ δ : Type} (f : α → Except ε β) (g : α → Except ε γ)
    (make : β → List γ → δ) (bad : α → Bool) (report : α → ε)
    (hf : ∀ x e, f x = .error e ↔ bad x = true ∧ report x = e)
    (hg : ∀ x e, g x = .error e ↔ bad x = true ∧ report x = e) (x : α) (xs : List α) (e : ε) :
    (f x >>= fun b => xs.mapM g >>= fun cs => pure (make b cs)) = .error e ↔
      ((x :: xs).find? bad).map report = some e := by
  have hfirst : ∀ e', f x = .error e' ↔ ([x].find? bad).map report = some e' := by
    intro e'
    rw [hf, List.find?_singleton, apply_ite (Option.map report), Option.map_some, Option.map_none,
      Option.ite_none_right_eq_some, Option.some.injEq]
  rw [bind_eq_error_of_fault _ _ _ _ hfirst fun b _ e' => ?_]
  · rw [← Option.map_or, ← List.find?_append]
    rfl
  · rw [bind_pure_eq_error, mapM_eq_error_of_bad g bad report hg]

/-- Two outcomes with related values or related errors. -/
def Match (P : α → β → Prop) (R : ε → ε' → Prop) : Except ε α → Except ε' β → Prop
  | .ok a, .ok b => P a b
  | .error e, .error e' => R e e'
  | _, _ => False

/-- Sequences match if their steps do. The second steps are compared on related values
    only. -/
theorem Match.bind {γ δ : Type} (P : α → β → Prop) (Q : γ → δ → Prop) (R : ε → ε' → Prop)
    (x : Except ε α) (y : Except ε' β) (f : α → Except ε γ) (g : β → Except ε' δ)
    (h : Match P R x y) (hnext : ∀ a b, P a b → Match Q R (f a) (g b)) :
    Match Q R (x >>= f) (y >>= g) := by
  cases x with
  | error e =>
      cases y with
      | error e' => exact h
      | ok b => exact False.elim h
  | ok a =>
      cases y with
      | error e' => exact False.elim h
      | ok b => exact hnext a b h

-- If only errors differ, the successes are the same.
theorem Match.eq_ok_iff (R : ε → ε' → Prop) (x : Except ε α) (y : Except ε' α)
    (h : Match Eq R x y) (a : α) : x = .ok a ↔ y = .ok a := by
  cases x with
  | error e =>
      cases y with
      | error e' => simp only [reduceCtorEq]
      | ok b => exact False.elim h
  | ok b =>
      cases y with
      | error e' => exact False.elim h
      | ok c =>
          rw [show b = c from h, Except.ok.injEq, Except.ok.injEq]

-- Lists of steps match entry by entry. The first failure is then in the same place.
theorem match_mapM {γ : Type} (P : β → γ → Prop) (R : ε → ε' → Prop) (f : α → Except ε β)
    (g : α → Except ε' γ) (xs : List α) (h : ∀ x ∈ xs, Match P R (f x) (g x)) :
    Match (List.Forall₂ P) R (xs.mapM f) (xs.mapM g) := by
  induction xs with
  | nil => exact List.Forall₂.nil
  | cons x xs ih =>
      rw [List.forall_mem_cons] at h
      rw [List.mapM_cons, List.mapM_cons]
      refine Match.bind P _ R _ _ _ _ h.1 fun b c hbc => ?_
      exact Match.bind _ _ R _ _ _ _ (ih h.2) fun bs cs hrest => List.Forall₂.cons hbc hrest

end Outcome

namespace Query

variable {α β : Type}

-- What a query comes out with, and what it read on the way.
@[simp] theorem result_pure (a : α) : (pure a : Query α).result = .ok a := rfl

@[simp] theorem reads_pure (a : α) : (pure a : Query α).reads = [] := rfl

@[simp] theorem result_ofExcept (x : Except Refusal α) : (ofExcept x).result = x := rfl

@[simp] theorem result_ask (read : Read) (x : Except Refusal α) : (ask read x).result = x := rfl

@[simp] theorem result_refuse (r : Refusal) : (refuse r : Query α).result = .error r := rfl

-- A step that reads nothing has no trace in the reads of a sequence.
@[simp] theorem ofExcept_ok_bind (a : α) (f : α → Query β) : ofExcept (.ok a) >>= f = f a := rfl

@[simp] theorem ofExcept_error_bind (r : Refusal) (f : α → Query β) :
    ofExcept (.error r) >>= f = refuse r := rfl

/-- A query that comes out with a value goes on, and a query that is refused does not. -/
theorem bind_of_ok (q : Query α) (f : α → Query β) (a : α) (h : q.result = .ok a) :
    q >>= f = ⟨(f a).result, q.reads ++ (f a).reads⟩ := by
  change andThen q f = _
  rw [andThen, h]

/-- A query that is refused reads nothing more. -/
theorem bind_of_error (q : Query α) (f : α → Query β) (r : Refusal) (h : q.result = .error r) :
    q >>= f = ⟨.error r, q.reads⟩ := by
  change andThen q f = _
  rw [andThen, h]

/-- The result of a sequence does not depend on what was read. -/
theorem result_bind (q : Query α) (f : α → Query β) :
    (q >>= f).result = q.result >>= fun a => (f a).result := by
  change (andThen q f).result = _
  unfold andThen
  cases q.result with
  | error r => rfl
  | ok a => rfl

theorem result_bind_eq_ok (q : Query α) (f : α → Query β) (b : β) :
    (q >>= f).result = .ok b ↔ ∃ a, q.result = .ok a ∧ (f a).result = .ok b := by
  rw [result_bind, Outcome.bind_eq_ok]

-- Side by side, queries come out as plain steps in a row.
theorem firstRefusal_map (xs : List α) (f : α → Except Refusal β) :
    firstRefusal (xs.map f) = xs.mapM f := by
  induction xs with
  | nil => rfl
  | cons x xs ih =>
      rw [List.map_cons, firstRefusal, List.mapM_cons, ih]

/-- Queries side by side succeed exactly if each of them does. -/
theorem result_forAll_eq_ok (xs : List α) (f : α → Query β) (ys : List β) :
    (forAll xs f).result = .ok ys ↔ List.Forall₂ (fun x y => (f x).result = .ok y) xs ys := by
  rw [forAll, firstRefusal_map, Outcome.mapM_eq_ok]

theorem result_bind_eq_error (q : Query α) (f : α → Query β) (r : Refusal) :
    (q >>= f).result = .error r ↔
      q.result = .error r ∨ ∃ a, q.result = .ok a ∧ (f a).result = .error r := by
  rw [result_bind, Outcome.bind_eq_error]

/-- Queries side by side fail with the first failure among them. -/
theorem result_forAll_eq_error (xs : List α) (f : α → Query β) (r : Refusal) :
    (forAll xs f).result = .error r ↔ Outcome.FirstFailure (fun x => (f x).result) xs r := by
  rw [forAll, firstRefusal_map, Outcome.mapM_eq_error]

end Query

end Cosigner
