import Cosigner.Proofs.Json.Number
import Cosigner.Proofs.Json.Text

/-!
# Reading Back What Is Printed

Printing a value and reading the text gives the value back. This holds for every
value whose leaves are such as the grammar has them, `Proper`, whatever it looks
like otherwise; in particular an object may have two members of one name.

The compact form has no blanks, so a reader that skips blanks finds the next token
at once. What it needs to know is where the value ends. Strings and containers end
with a mark of their own, and a number ends because of what stands behind it. Behind
a printed value there is either nothing or one of three marks, and none of them
belongs to a number.

The reader recurses through values, items and members by counting down. A printed
value is never nested deeper than it is long, and so its length is enough to count
down from. The induction is on values: items and members are gone through by an
inner one, which takes for granted what is known about each of them.

## Main definitions

* `Json.Proper`: A value whose leaves are such as the grammar has them.
* `Json.ReadsBack`: A value that is read from its form, whatever closes it.

## Theorems

* `Json.items_print`, `Json.members_print`: Items and members are read back, if
  each value is.
* `Json.readsBack_of_proper`: A proper value is read back.
* `Json.read?_of_proper`: So is one that is the whole input.
-/

namespace Cosigner

namespace Json

/-- A value whose leaves are such as the grammar has them. -/
inductive Proper : Json → Prop where
  | null : Proper .null
  | bool (b : Bool) : Proper (.bool b)
  | number (n : Numeral) (hn : n.Proper) : Proper (.number n)
  | string (raw : Bytes) (hraw : Delimited raw) : Proper (.string raw)
  | array (items : List Json) (hitems : ∀ item ∈ items, Proper item) : Proper (.array items)
  | object (members : List (Bytes × Json)) (hnames : ∀ m ∈ members, Delimited m.1)
      (hvalues : ∀ m ∈ members, Proper m.2) : Proper (.object members)

/-- A value that is read from its form, whatever closes it, if the reader counts down
    from more than the length of the form. -/
def ReadsBack (j : Json) : Prop :=
  ∀ fuel rest, Closes rest → j.print.length < fuel →
    value fuel (j.print ++ rest) = some (j, rest)

theorem readsBack_of_succ (j : Json) (h : ∀ fuel rest, Closes rest → j.print.length ≤ fuel →
    value (fuel + 1) (j.print ++ rest) = some (j, rest)) : ReadsBack j := by
  intro fuel rest hrest hfuel
  cases fuel with
  | zero => exact absurd hfuel (Nat.not_lt_zero _)
  | succ fuel => exact h fuel rest hrest (Nat.lt_succ_iff.mp hfuel)

-- A form starts with a mark that is no blank and closes no array.
theorem print_eq_cons (j : Json) (hj : j.Proper) :
    ∃ b form, j.print = b :: form ∧ isBlank b = false ∧ b ≠ 93 := by
  cases hj with
  | null => exact ⟨110, _, rfl, by decide, by decide⟩
  | bool b =>
      cases b with
      | false => exact ⟨102, _, rfl, by decide, by decide⟩
      | true => exact ⟨116, _, rfl, by decide, by decide⟩
  | number n hn =>
      rw [print, Numeral.print_eq]
      rcases n with ⟨negative, whole, fraction, exponent⟩
      cases negative with
      | true => exact ⟨45, _, rfl, by decide, by decide⟩
      | false =>
          cases whole with
          | nil => exact absurd rfl hn.whole.nonempty
          | cons d ds =>
              have hd : d < 10 := hn.whole.lt d List.mem_cons_self
              refine ⟨UInt8.ofNat (48 + d), _, rfl, ?_⟩
              interval_cases d <;> decide
  | string raw hraw => exact ⟨34, _, rfl, by decide, by decide⟩
  | array items hitems =>
      cases items with
      | nil => exact ⟨91, _, rfl, by decide, by decide⟩
      | cons item rest => exact ⟨91, _, rfl, by decide, by decide⟩
  | object members hnames hvalues =>
      cases members with
      | nil => exact ⟨123, _, rfl, by decide, by decide⟩
      | cons m rest => exact ⟨123, _, rfl, by decide, by decide⟩

theorem value_digit (fuel d : Nat) (hd : d < 10) (rest : Bytes) :
    value (fuel + 1) (UInt8.ofNat (48 + d) :: rest) =
      unsigned? false (UInt8.ofNat (48 + d) :: rest) := by
  interval_cases d <;> rfl

theorem readsBack_number (n : Numeral) (hn : n.Proper) : ReadsBack (.number n) := by
  refine readsBack_of_succ _ fun fuel rest hrest _ => ?_
  have hread := unsigned?_print n hn rest hrest
  rw [print, Numeral.print_eq, List.append_assoc, List.append_assoc, List.append_assoc]
  rcases n with ⟨negative, whole, fraction, exponent⟩
  cases whole with
  | nil => exact absurd rfl hn.whole.nonempty
  | cons d ds =>
      cases negative with
      | true => exact hread
      | false => exact (value_digit fuel d (hn.whole.lt d List.mem_cons_self) _).trans hread

theorem skipBlanks_cons (b : UInt8) (rest : Bytes) (hb : isBlank b = false) :
    skipBlanks (b :: rest) = b :: rest := by
  rw [skipBlanks, List.dropWhile_cons, hb]
  rfl

/-- Items are read back, if each value is. -/
theorem items_print (item : Json) (others : List Json)
    (hread : ∀ j ∈ item :: others, ReadsBack j) (fuel : Nat) (rest : Bytes)
    (hfuel : (item.print ++ printItems others).length < fuel) :
    items fuel (item.print ++ (printItems others ++ rest)) = some (item :: others, rest) := by
  induction others generalizing item fuel with
  | nil =>
      cases fuel with
      | zero => exact absurd hfuel (Nat.not_lt_zero _)
      | succ fuel =>
          simp only [printItems, List.length_append, List.length_singleton] at hfuel
          have hitem := hread item List.mem_cons_self fuel (93 :: rest) (.bracket rest) (by omega)
          simp only [items, printItems, List.singleton_append, hitem]
          rfl
  | cons next others ih =>
      cases fuel with
      | zero => exact absurd hfuel (Nat.not_lt_zero _)
      | succ fuel =>
          rw [List.forall_mem_cons] at hread
          simp only [printItems, List.cons_append, List.append_assoc, List.length_append,
            List.length_cons] at hfuel ⊢
          have hitem := hread.1 fuel (44 :: (next.print ++ (printItems others ++ rest)))
            (.comma _) (by omega)
          have hothers := ih next hread.2 fuel (by rw [List.length_append]; omega)
          simp only [items, hitem]
          -- A comma is no blank, so the next item is read behind it.
          change (items fuel (next.print ++ (printItems others ++ rest))).map _ = _
          rw [hothers]
          rfl

-- Behind the value of a member, a reader decides between another member and the end.
theorem members_cons (name : Bytes) (hname : Delimited name) (item : Json) (fuel : Nat)
    (after : Bytes) (hitem : value fuel (item.print ++ after) = some (item, after))
    (found : Option (List (Bytes × Json) × Bytes))
    (hfound : (match skipBlanks after with
      | 125 :: after => some ([(name, item)], after)
      | 44 :: after =>
        (members fuel after).map fun (others, after) => ((name, item) :: others, after)
      | _ => none) = found) :
    members (fuel + 1) (printString name ++ 58 :: (item.print ++ after)) = found := by
  have hform : printString name ++ 58 :: (item.print ++ after) =
      34 :: (name ++ 34 :: 58 :: (item.print ++ after)) := by
    simp only [printString, List.cons_append, List.append_assoc, List.nil_append]
  simp only [hform, members, skipBlanks_cons 34 _ rfl, hname (58 :: (item.print ++ after)),
    skipBlanks_cons 58 _ rfl, hitem]
  exact hfound

/-- Members are read back, if each value is and each name ends at its quote. -/
theorem members_print (name : Bytes) (item : Json) (others : List (Bytes × Json))
    (hnames : ∀ m ∈ (name, item) :: others, Delimited m.1)
    (hread : ∀ m ∈ (name, item) :: others, ReadsBack m.2) (fuel : Nat) (rest : Bytes)
    (hfuel : (printString name ++ 58 :: (item.print ++ printMembers others)).length < fuel) :
    members fuel (printString name ++ 58 :: (item.print ++ (printMembers others ++ rest))) =
      some ((name, item) :: others, rest) := by
  induction others generalizing name item fuel with
  | nil =>
      cases fuel with
      | zero => exact absurd hfuel (Nat.not_lt_zero _)
      | succ fuel =>
          have hitem : ReadsBack item := hread (name, item) List.mem_cons_self
          simp only [printMembers, List.length_append, List.length_cons, List.length_nil] at hfuel
          simp only [printMembers, List.cons_append, List.nil_append]
          exact members_cons name (hnames (name, item) List.mem_cons_self) item fuel (125 :: rest)
            (hitem fuel (125 :: rest) (.brace rest) (by omega)) _ rfl
  | cons next others ih =>
      rcases next with ⟨nextName, next⟩
      cases fuel with
      | zero => exact absurd hfuel (Nat.not_lt_zero _)
      | succ fuel =>
          rw [List.forall_mem_cons] at hnames hread
          simp only [printMembers, List.cons_append, List.append_assoc, List.length_append,
            List.length_cons] at hfuel ⊢
          have hitem : ReadsBack item := hread.1
          have hothers := ih nextName next hnames.2 hread.2 fuel
            (by simp only [List.length_append, List.length_cons]; omega)
          refine members_cons name hnames.1 item fuel _ (hitem fuel _ (.comma _) (by omega)) _ ?_
          -- A comma is no blank, so the next member is read behind it.
          change (members fuel (printString nextName ++ 58 ::
            (next.print ++ (printMembers others ++ rest)))).map _ = _
          rw [hothers]
          rfl

-- What opens with a mark that closes no array is not empty.
theorem value_array (fuel : Nat) (b : UInt8) (form : Bytes) (hblank : isBlank b = false)
    (hclosing : b ≠ 93) : value (fuel + 1) (91 :: b :: form) =
      (items fuel (b :: form)).map fun (found, after) => (Json.array found, after) := by
  simp only [value, skipBlanks_cons 91 _ rfl, skipBlanks_cons b form hblank]
  split
  next heq => exact absurd (List.cons.inj heq).1 hclosing
  next => rfl

/-- A proper value is read back. -/
theorem readsBack_of_proper (j : Json) (hj : j.Proper) : ReadsBack j := by
  induction hj with
  | null => exact readsBack_of_succ _ fun _ _ _ _ => rfl
  | bool b =>
      cases b with
      | false => exact readsBack_of_succ _ fun _ _ _ _ => rfl
      | true => exact readsBack_of_succ _ fun _ _ _ _ => rfl
  | number n hn => exact readsBack_number n hn
  | string raw hraw =>
      refine readsBack_of_succ _ fun fuel rest _ _ => ?_
      have hform : (Json.string raw).print ++ rest = 34 :: (raw ++ 34 :: rest) := by
        simp only [print, printString, List.cons_append, List.append_assoc, List.nil_append]
      rw [hform]
      change (rawString? (raw ++ 34 :: rest)).map _ = _
      rw [hraw rest]
      rfl
  | array elements helements ih =>
      refine readsBack_of_succ _ fun fuel rest _ hfuel => ?_
      cases elements with
      | nil => rfl
      | cons item others =>
          simp only [print, List.cons_append, List.append_assoc, List.length_cons] at hfuel ⊢
          have hitems := items_print item others ih fuel rest hfuel
          rcases print_eq_cons item (helements item List.mem_cons_self) with
            ⟨b, form, heq, hblank, hclosing⟩
          rw [heq, List.cons_append] at hitems
          rw [heq, List.cons_append, value_array fuel b _ hblank hclosing, hitems]
          rfl
  | object fields hnames _ ih =>
      refine readsBack_of_succ _ fun fuel rest _ hfuel => ?_
      cases fields with
      | nil => rfl
      | cons m others =>
          rcases m with ⟨name, item⟩
          simp only [print, List.cons_append, List.append_assoc, List.length_cons] at hfuel ⊢
          have hmembers := members_print name item others hnames ih fuel rest hfuel
          change (members fuel (printString name ++ 58 ::
            (item.print ++ (printMembers others ++ rest)))).map _ = _
          rw [hmembers]
          rfl

/-- A proper value is read back from a text that is nothing else. -/
theorem read?_of_proper (j : Json) (hj : j.Proper) : read? j.print = some j := by
  have hread := readsBack_of_proper j hj (2 * j.print.length + 2) [] .nil (by omega)
  rw [List.append_nil] at hread
  rw [read?, hread]
  rfl

end Json

end Cosigner
