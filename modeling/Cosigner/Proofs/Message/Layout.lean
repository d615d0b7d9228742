import Cosigner.Proofs.Message.Extraction

/-!
# When a Roster Can Be Laid Out

Laying out a roster can fail in four ways, and two of them never happen. The
payer is mentioned first, with both flags, so the first entry of a roster is the
payer's and has both flags too. Further mentions only add to the roles of
entries, and tables only take over keys that do not sign, so this stays true of
every roster that a compilation gets to see. The payer is then the first of the
writable signers.

What is left are two limits: 256 keys to carry, and 255 signers, since their
number has to fit into a byte. The number of writable non-signers has to fit as
well, but there is always a signer besides, so this limit comes with the first.

## Main definitions

* `Roster.PayerFirst`: A roster whose first entry is the payer's.
* `Roster.signerCount`: The number of signers.

## Theorems

* `Roster.payerFirst_gather`, `Roster.payerFirst_beyond`: The payer stays first.
* `Roster.perm_carriedKeys`: A layout carries every key once.
* `Roster.layout_of_room`, `Roster.layout_of_crowded`: What a layout comes out
  with.
-/

namespace Cosigner

namespace Roster

/-- A roster whose first entry is the payer's, with both flags. -/
def PayerFirst (r : Roster) : Prop :=
  r.entries.head? = some ⟨r.payer, .payer⟩

/-- The number of signers. -/
def signerCount (r : Roster) : Nat :=
  (r.group ⟨true, true⟩).length + (r.group ⟨true, false⟩).length

/-- A mention leaves an entry with both flags in front as it is. -/
theorem head?_note (es : List AccountRef) (m : AccountRef) (key : Address)
    (h : es.head? = some ⟨key, .payer⟩) : (note es m).head? = some ⟨key, .payer⟩ := by
  rcases List.head?_eq_some_iff.mp h with ⟨rest, rfl⟩
  rw [note]
  by_cases hkey : key = m.key
  · rw [if_pos hkey]
    rfl
  · rw [if_neg hkey]
    rfl

theorem head?_foldl_note (ms es : List AccountRef) (key : Address)
    (h : es.head? = some ⟨key, .payer⟩) : (ms.foldl note es).head? = some ⟨key, .payer⟩ := by
  induction ms generalizing es with
  | nil => exact h
  | cons m rest ih => exact ih (note es m) (head?_note es m key h)

/-- The payer is mentioned first. -/
theorem payerFirst_gather (payer : Address) (ixs : List Instruction) :
    (gather payer ixs).PayerFirst :=
  head?_foldl_note (ixs.flatMap Instruction.references) [⟨payer, .payer⟩] payer rfl

/-- Tables leave signers behind, and so the payer in front. -/
theorem payerFirst_beyond (r : Roster) (tables : List LookupTable) (h : r.PayerFirst) :
    (r.beyond tables).PayerFirst := by
  rcases List.head?_eq_some_iff.mp h with ⟨rest, hentries⟩
  simp only [PayerFirst, beyond, hentries, Role.payer, List.filter_cons, true_or, decide_true,
    if_true, List.head?_cons]

/-- The payer is then the first of the writable signers. -/
theorem PayerFirst.head?_group {r : Roster} (h : r.PayerFirst) :
    (r.group ⟨true, true⟩).head? = some r.payer := by
  rcases List.head?_eq_some_iff.mp h with ⟨rest, hentries⟩
  simp only [group, hentries, Role.payer, List.filter_cons, decide_true, if_true, List.map_cons,
    List.head?_cons]

/-- A layout carries the keys of the roster, each once. -/
theorem perm_carriedKeys (r : Roster) : r.carriedKeys.Perm r.keys := by
  simp only [carriedKeys, group, keys, ← List.map_append]
  refine List.Perm.map _ (List.perm_iff_count.mpr fun e => ?_)
  simp only [List.count_append, count_filter, decide_eq_true_eq]
  rcases e with ⟨key, ⟨signer, writable⟩⟩
  cases signer <;> cases writable <;>
    simp only [Role.mk.injEq, Bool.false_eq_true, Bool.true_eq_false, and_true, and_false,
      if_true, if_false, Nat.add_zero, Nat.zero_add]

/-- The groups of a layout have as many keys as the roster. -/
theorem length_groups (r : Roster) :
    r.signerCount + (r.group ⟨false, true⟩).length + (r.group ⟨false, false⟩).length
      = r.length := by
  have hlength := r.perm_carriedKeys.length_eq
  simp only [carriedKeys, keys, List.length_append, List.length_map] at hlength
  exact hlength

theorem PayerFirst.one_le_writableSigners {r : Roster} (h : r.PayerFirst) :
    1 ≤ (r.group ⟨true, true⟩).length := by
  rcases List.head?_eq_some_iff.mp h.head?_group with ⟨rest, hgroup⟩
  rw [hgroup, List.length_cons]
  exact Nat.le_add_left 1 _

/-- With the payer in front, a layout is a matter of counting. -/
theorem PayerFirst.layout_eq {r : Roster} (h : r.PayerFirst) :
    r.layout = if 256 < r.length then .error .tooManyKeys else do
      let signers ← countByte r.signerCount
      let writableSigners ← countByte (r.group ⟨true, true⟩).length
      let writableNonSigners ← countByte (r.group ⟨false, true⟩).length
      return (⟨signers, writableSigners, writableNonSigners⟩, r.carriedKeys) := by
  unfold layout
  by_cases hlength : 256 < r.length
  · rw [if_pos hlength, if_pos hlength]
    rfl
  · rw [if_neg hlength, if_neg hlength]
    simp only [h.head?_group, ne_eq, not_true_eq_false, if_false]
    rfl

/-- A roster with room for its keys and its signers is laid out. -/
theorem layout_of_room (r : Roster) (hpayer : r.PayerFirst) (hlength : r.length ≤ 256)
    (hsigners : r.signerCount ≤ 255) : r.layout = .ok (r.headerOf, r.carriedKeys) := by
  have hgroups := r.length_groups
  have hone := hpayer.one_le_writableSigners
  have hwritable : (r.group ⟨true, true⟩).length ≤ r.signerCount := Nat.le_add_right _ _
  have hcount : ∀ n ≤ 255, countByte n = .ok (UInt8.ofNat n) :=
    fun n hn => (countByte_eq_ok n _).mpr ⟨Nat.lt_succ_of_le hn, rfl⟩
  -- The writable non-signers fit because the payer is besides them.
  rw [hpayer.layout_eq, if_neg (Nat.not_lt_of_le hlength), hcount _ hsigners,
    hcount _ (by omega), hcount _ (by omega)]
  rfl

/-- A roster with too many keys or signers is not. -/
theorem layout_of_crowded (r : Roster) (hpayer : r.PayerFirst)
    (h : 256 < r.length ∨ 255 < r.signerCount) : r.layout = .error .tooManyKeys := by
  rw [hpayer.layout_eq]
  by_cases hlength : 256 < r.length
  · rw [if_pos hlength]
  · have hcount : countByte r.signerCount = .error .tooManyKeys := by
      rw [countByte, if_neg (by omega)]
    rw [if_neg hlength, hcount]
    rfl

end Roster

end Cosigner
