import Cosigner.Proofs.Message.Conservation

/-!
# What a Layout Says of Its Keys

A layout gives up the flags of the roster. It writes the keys group by group, and
three counts are all that is left to tell the groups apart. The counts are read back
by comparing a place with them, and each comparison is made at the border of two
groups, where one of them may be empty. So it is not enough that the counts are the
sizes of the groups: every place on either side of every border has to come out with
the flags of its own key.

This is said of every roster that can come about, after any calls for tables. What
tables leave behind is the gathered roster without some keys that do not sign, in
the same order. The payer was gathered first and signs, so it is still in front, and
a layout can only fail because there are too many keys or too many signers. Within a
group the order of the roster is kept, which is the order of first mention.

## Main definitions

* `Role.all`: The four roles, in the order of their groups.
* `Roster.relieved`: A roster after any calls for tables.
* `Roster.Describes`: A layout that says of every key what the roster says.

## Theorems

* `Roster.signerCount_eq`: The number of signers as a number of entries.
* `Roster.pairwise_carriedKeys`: A layout keeps the order within each group.
* `Roster.relieved_eq`: What calls for tables leave behind.
* `Roster.layout_describes`: When a layout succeeds, and what it says.
-/

namespace Cosigner

/-- The four roles, in the order of their groups in a layout. -/
def Role.all : List Role := [⟨true, true⟩, ⟨true, false⟩, ⟨false, true⟩, ⟨false, false⟩]

namespace Roster

/-- The roster of a payer and instructions after calls for tables in turn, whatever
    they come out with. -/
def relieved (payer : Address) (ixs : List Instruction) (tables : List LookupTable) : Roster :=
  ((gather payer ixs).extractEach tables).2

/-- A layout that says of every key what the roster says. -/
structure Describes (payer : Address) (ixs : List Instruction) (r : Roster) (header : Header)
    (keys : List Address) : Prop where
  -- The keys are those of the roster, the payer in front.
  perm : keys.Perm r.keys
  payerFirst : keys.head? = some payer
  -- Keys with the same role are in the order of first mention.
  inOrder : keys.Pairwise fun a b =>
    r.get? a = r.get? b → firstMention payer ixs a < firstMention payer ixs b
  -- The counts give every place the flags of its key.
  roles : ∀ place key, keys[place]? = some key → ∃ role, r.get? key = some role ∧
    header.isSigner place = role.signer ∧ header.isWritable place = role.writable

theorem signerCount_eq (r : Roster) : r.signerCount = r.entries.countP (·.role.signer) := by
  unfold signerCount group
  rw [List.length_map, List.length_map, ← List.countP_eq_length_filter,
    ← List.countP_eq_length_filter]
  induction r.entries with
  | nil => rfl
  | cons e rest ih =>
      rw [List.countP_cons, List.countP_cons, List.countP_cons, ← ih]
      rcases e with ⟨key, ⟨signer, writable⟩⟩
      cases signer <;> cases writable <;>
        simp only [Role.mk.injEq, Bool.false_eq_true, Bool.true_eq_false, and_true, and_false,
          decide_true, decide_false, if_true, if_false] <;> omega

theorem carriedKeys_eq (r : Roster) : r.carriedKeys = Role.all.flatMap r.group := by
  simp only [carriedKeys, Role.all, List.flatMap_cons, List.flatMap_nil, List.append_nil,
    List.append_assoc]

-- Within a group the order is that of the roster, and keys of two groups have
-- different roles.
theorem pairwise_carriedKeys (r : Roster) (hnodup : r.keys.Nodup)
    (R : Address → Address → Prop) (h : r.keys.Pairwise R) :
    r.carriedKeys.Pairwise fun a b => r.get? a = r.get? b → R a b := by
  have hrole : ∀ role, ∀ key ∈ r.group role, r.get? key = some role := by
    intro role key hkey
    rw [get?_eq_some_iff r hnodup, ← mem_group]
    exact hkey
  have hdistinct : Role.all.Pairwise (· ≠ ·) := by decide
  rw [carriedKeys_eq, List.pairwise_flatMap]
  constructor
  · intro role _
    have hsub : (r.group role).Sublist r.keys := List.filter_sublist.map _
    exact (h.sublist hsub).imp fun {a b} hab (_ : r.get? a = r.get? b) => hab
  · refine hdistinct.imp fun {role role'} hne a ha b hb hsame => ?_
    rw [hrole role a ha, hrole role' b hb, Option.some.injEq] at hsame
    exact absurd hsame hne

-- With the payer in front, only the two limits can be missed.
theorem PayerFirst.layout_cases {r : Roster} (h : r.PayerFirst) :
    (r.length ≤ 256 ∧ r.entries.countP (·.role.signer) ≤ 255 ∧
        r.layout = .ok (r.headerOf, r.carriedKeys)) ∨
      (¬ (r.length ≤ 256 ∧ r.entries.countP (·.role.signer) ≤ 255) ∧
        r.layout = .error .tooManyKeys) := by
  rw [← signerCount_eq]
  by_cases hroom : r.length ≤ 256 ∧ r.signerCount ≤ 255
  · exact .inl ⟨hroom.1, hroom.2, layout_of_room r h hroom.1 hroom.2⟩
  · exact .inr ⟨hroom, layout_of_crowded r h (by omega)⟩

section Relieved

variable (payer : Address) (ixs : List Instruction)

/-- Calls for tables leave behind what the tables with a record leave behind. -/
theorem relieved_eq (tables : List LookupTable) :
    ∃ used, relieved payer ixs tables = (gather payer ixs).beyond used := by
  have hturns := extractEach_turns (gather payer ixs) (nodup_keys_gather payer ixs) tables []
  rw [beyond_nil] at hturns
  exact ⟨_, hturns.1⟩

/-- What tables leave behind is described by its layout. -/
theorem describes_of_layout (used : List LookupTable) (header : Header) (keys : List Address)
    (h : ((gather payer ixs).beyond used).layout = .ok (header, keys)) :
    Describes payer ixs ((gather payer ixs).beyond used) header keys := by
  have hnodup := nodup_keys_beyond _ used (nodup_keys_gather payer ixs)
  have hpayer := payerFirst_beyond _ used (payerFirst_gather payer ixs)
  have hsub : ((gather payer ixs).beyond used).keys.Sublist (gather payer ixs).keys :=
    List.filter_sublist.map _
  have hordered := (pairwise_gather payer ixs).sublist hsub
  have hkeys := (layout_eq_ok _ header keys h).2.2.2.2.2
  refine ⟨?_, ?_, ?_, fun place key hkey => ?_⟩
  · rw [hkeys]
    exact perm_carriedKeys _
  · rw [hkeys]
    exact hpayer.head?_carriedKeys
  · rw [hkeys]
    exact pairwise_carriedKeys _ hnodup _ hordered
  · -- The header says the role of an entry, and this entry is the one that is looked up.
    have hentry := layout_role _ header keys h place key hkey
    exact ⟨header.role place, (get?_eq_some_iff _ hnodup key _).mpr hentry, rfl, rfl⟩

/-- When a layout succeeds, and what it says. After any calls for tables, a roster is
    laid out exactly if there is room for its keys and for its signers; it is never
    refused for want of a writable signer or for the place of the payer. The layout
    then says of every key what the roster says. -/
theorem layout_describes (tables : List LookupTable) :
    ((∃ header keys, (relieved payer ixs tables).layout = .ok (header, keys)) ↔
        (relieved payer ixs tables).length ≤ 256 ∧
          (relieved payer ixs tables).entries.countP (·.role.signer) ≤ 255) ∧
      (∀ e, (relieved payer ixs tables).layout = .error e → e = .tooManyKeys) ∧
      ∀ header keys, (relieved payer ixs tables).layout = .ok (header, keys) →
        Describes payer ixs (relieved payer ixs tables) header keys := by
  rcases relieved_eq payer ixs tables with ⟨used, hused⟩
  rw [hused]
  have hpayer := payerFirst_beyond _ used (payerFirst_gather payer ixs)
  refine ⟨?_, ?_, describes_of_layout payer ixs used⟩
  · rcases hpayer.layout_cases with ⟨hlength, hsigners, hlayout⟩ | ⟨hcrowded, hlayout⟩
    · exact ⟨fun _ => ⟨hlength, hsigners⟩, fun _ => ⟨_, _, hlayout⟩⟩
    · simp only [hlayout, reduceCtorEq, exists_false, hcrowded]
  · intro e he
    rcases hpayer.layout_cases with ⟨_, _, hlayout⟩ | ⟨_, hlayout⟩
    · rw [hlayout] at he
      exact absurd he (by simp only [reduceCtorEq, not_false_eq_true])
    · rw [hlayout, Except.error.injEq] at he
      exact he.symm

-- A table takes over a key of a group in the middle, a table out of reach changes
-- nothing, and one group is left empty.
example :
    let key (n : UInt8) : Address := Octets.replicate 32 n
    let ixs : List Instruction := [⟨key 9, [⟨key 3, ⟨false, true⟩⟩, ⟨key 2, ⟨true, false⟩⟩,
      ⟨key 4, .plain⟩, ⟨key 5, ⟨true, true⟩⟩], []⟩]
    let far : LookupTable := ⟨key 20, List.replicate 256 (key 0) ++ [key 4]⟩
    let near : LookupTable := ⟨key 21, [key 2, key 3]⟩
    (relieved (key 1) ixs [far, near]).layout =
      .ok (⟨3, 2, 0⟩, [key 1, key 5, key 2, key 9, key 4]) := by
  decide +kernel

end Relieved

end Roster

end Cosigner
