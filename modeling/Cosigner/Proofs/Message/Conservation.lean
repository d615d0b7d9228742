import Cosigner.Proofs.Message.WellFormed

/-!
# Keys Are Never Lost or Doubled

A compilation goes through its tables once and stops at the first that fails. A
roster does not ask for that much order. It can be relieved by any tables, by
the same table again, by tables that hold a key twice and by tables that fail,
and this module follows it through all of that.

What holds at every point is that a mentioned key is in exactly one place. It is
still to be carried, with the role that it was gathered with, or it stands in
one record of what was taken over, and there once. A call that fails, or that
finds nothing, leaves no trace. A table that has taken over keys has nothing
left to take, at any later point.

The argument is that calls without a record can be left out. What remains is a
run over tables that succeed, and such a run has a closed form: the roster is the
gathered one without the keys that the tables hold, and every record is the
share of one turn. So conservation is the permutation that was shown for turns.

## Main definitions

* `Roster.extractEach`: Moves keys to tables in turn, past those that fail.
* `takenKeys`: The keys in records.
* `firstMention`: Where a key is mentioned first.
* `Extraction.Records`: A record that is true to its table and to the mentions.
* `Roster.Conserves`: Every mentioned key in exactly one place.

## Theorems

* `Roster.pairwise_gather`: A gathered roster is in the order of first mention.
* `Roster.extract_cases`: The three ways in which one table comes out.
* `Roster.extractEach_turns`: A run is a run over the tables with a record.
* `Roster.extractEach_conserves`: Every run conserves keys.
-/

namespace Cosigner

/-- The keys that records list, in the order of the records. -/
def takenKeys (records : List (LookupTable × Extraction)) : List Address :=
  records.flatMap fun record => record.2.loaded.toList

/-- The place at which a payer and instructions mention a key first. -/
def firstMention (payer : Address) (ixs : List Instruction) (key : Address) : Nat :=
  ((references payer ixs).map (·.key)).idxOf key

/-- A record that is true to its table and to what is asked for on its keys. -/
structure Extraction.Records (x : Extraction) (payer : Address) (ixs : List Instruction)
    (t : LookupTable) : Prop where
  -- It has keys, and its indexes are their first places in the table.
  loads : x.lookup.Loads ⟨t, x.loaded⟩
  -- Keys are writable exactly if some instruction asks for it.
  writable : ∀ key ∈ x.loaded.toList,
    (key ∈ x.loaded.writable ↔ asksFor payer ixs Role.writable key = true)
  readonly : ∀ key ∈ x.loaded.toList,
    (key ∈ x.loaded.readonly ↔ asksFor payer ixs Role.writable key = false)
  -- Both lists are in the order of first mention.
  writableInOrder : x.loaded.writable.Pairwise fun a b =>
    firstMention payer ixs a < firstMention payer ixs b
  readonlyInOrder : x.loaded.readonly.Pairwise fun a b =>
    firstMention payer ixs a < firstMention payer ixs b

namespace Roster

/-- Moves keys to several tables in turn, and carries on behind a table that
    fails. The records of what was taken over come with their tables. -/
def extractEach (r : Roster) : List LookupTable → List (LookupTable × Extraction) × Roster
  | [] => ([], r)
  | t :: rest =>
    let (outcome, after) := r.extract t
    let (others, last) := after.extractEach rest
    match outcome with
    | .ok (some x) => ((t, x) :: others, last)
    | _ => (others, last)

/-- A roster and the records so far, with every mentioned key in exactly one
    place. -/
structure Conserves (payer : Address) (ixs : List Instruction)
    (records : List (LookupTable × Extraction)) (r : Roster) : Prop where
  -- A mentioned key is still to be carried, with all that is asked for it, or it
  -- is in one record, once.
  onePlace : ∀ key ∈ mentionedKeys payer ixs,
    (r.get? key = some (mergedRole payer ixs key) ∧ (takenKeys records).count key = 0) ∨
      (r.get? key = none ∧ (takenKeys records).count key = 1)
  -- No other key is anywhere.
  noOther : ∀ key ∉ mentionedKeys payer ixs, r.get? key = none ∧ key ∉ takenKeys records
  -- Signers are not taken over, and the payer stays.
  unsigned : ∀ key ∈ takenKeys records, asksFor payer ixs Role.signer key = false
  payerStays : r.get? payer = some .payer
  -- Records are true to their tables and to the mentions.
  recorded : ∀ record ∈ records, record.2.Records payer ixs record.1
  -- The length counts the keys that are still to be carried.
  length : r.length = ((mentionedKeys payer ixs).filter fun key => (r.get? key).isSome).card
  -- One more call without a record changes nothing.
  unchanged : ∀ t, (∀ x, (r.extract t).1 ≠ .ok (some x)) → (r.extract t).2 = r
  -- A table with a record holds no key anymore that could be taken over, and
  -- would come out with nothing.
  exhausted : ∀ record ∈ records, ∀ key role, r.get? key = some role → role.signer = false →
    key ∉ record.1.addresses
  repeated : ∀ record ∈ records, r.extract record.1 = (.ok none, r)

-- Looking up a key in a roster, which has each key once.
theorem get?_eq_none_iff (r : Roster) (key : Address) : r.get? key = none ↔ key ∉ r.keys := by
  rw [get?, Option.map_eq_none_iff, List.find?_eq_none, keys, List.mem_map]
  simp only [decide_eq_true_eq, not_exists, not_and]

theorem get?_eq_some_iff (r : Roster) (hnodup : r.keys.Nodup) (key : Address) (role : Role) :
    r.get? key = some role ↔ ⟨key, role⟩ ∈ r.entries := by
  rw [get?, Option.map_eq_some_iff]
  constructor
  · intro h
    rcases h with ⟨e, hfind, rfl⟩
    have hkey := List.find?_some hfind
    rw [decide_eq_true_iff] at hkey
    rw [← hkey]
    exact List.mem_of_find?_eq_some hfind
  · intro hmem
    cases hfind : r.entries.find? (·.key = key) with
    | none =>
        have hnot := List.find?_eq_none.mp hfind _ hmem
        exact absurd (decide_eq_true rfl) hnot
    | some e =>
        have hkey := List.find?_some hfind
        rw [decide_eq_true_iff] at hkey
        -- No other entry has the key.
        have heq := List.inj_on_of_nodup_map hnodup (List.mem_of_find?_eq_some hfind) hmem hkey
        exact ⟨e, rfl, by rw [heq]⟩

-- The invariant of the order: the keys so far stand in the order of their first
-- places among the mentions so far. A mention behind them moves none of these.
theorem pairwise_note (es ms : List AccountRef) (m : AccountRef)
    (hkeys : ∀ key, key ∈ es.map (·.key) ↔ key ∈ ms.map (·.key))
    (h : (es.map (·.key)).Pairwise fun a b =>
      (ms.map (·.key)).idxOf a < (ms.map (·.key)).idxOf b) :
    ((note es m).map (·.key)).Pairwise fun a b =>
      ((ms ++ [m]).map (·.key)).idxOf a < ((ms ++ [m]).map (·.key)).idxOf b := by
  have hstay : ∀ key ∈ es.map (·.key),
      ((ms ++ [m]).map (·.key)).idxOf key = (ms.map (·.key)).idxOf key := by
    intro key hkey
    rw [List.map_append, List.idxOf_append_of_mem ((hkeys key).mp hkey)]
  have hold : (es.map (·.key)).Pairwise fun a b =>
      ((ms ++ [m]).map (·.key)).idxOf a < ((ms ++ [m]).map (·.key)).idxOf b := by
    refine h.imp_of_mem fun {a b} ha hb hlt => ?_
    rw [hstay a ha, hstay b hb]
    exact hlt
  rw [map_key_note]
  by_cases hm : m.key ∈ es.map (·.key)
  · rw [if_pos hm]
    exact hold
  · rw [if_neg hm, List.pairwise_append]
    refine ⟨hold, List.pairwise_singleton _ _, fun a ha b hb => ?_⟩
    have hnew : m.key ∉ ms.map (·.key) := fun hc => hm ((hkeys _).mpr hc)
    -- The new key is first mentioned behind all others.
    rw [List.mem_singleton.mp hb, hstay a ha, List.map_append, List.idxOf_append_of_notMem hnew]
    exact Nat.lt_of_lt_of_le (List.idxOf_lt_length_of_mem ((hkeys a).mp ha)) (Nat.le_add_right _ _)

/-- Keys are noted in the order in which they are mentioned first, whatever was noted
    before. -/
theorem pairwise_foldl (later es ms : List AccountRef) (ht : Tallies es ms)
    (h : (es.map (·.key)).Pairwise fun a b =>
      (ms.map (·.key)).idxOf a < (ms.map (·.key)).idxOf b) :
    ((later.foldl note es).map (·.key)).Pairwise fun a b =>
      ((ms ++ later).map (·.key)).idxOf a < ((ms ++ later).map (·.key)).idxOf b := by
  induction later generalizing es ms with
  | nil =>
      rw [List.append_nil]
      exact h
  | cons m rest ih =>
      rw [List.foldl_cons, List.append_cons]
      exact ih (note es m) (ms ++ [m]) (tallies_note es ms m ht) (pairwise_note es ms m ht.keys h)

/-- A roster lists its keys in the order of their first mentions. -/
theorem pairwise_gather (payer : Address) (ixs : List Instruction) :
    (gather payer ixs).keys.Pairwise fun a b =>
      firstMention payer ixs a < firstMention payer ixs b := by
  have hempty : Tallies [] [] :=
    ⟨List.nodup_nil, fun key => Iff.rfl, fun e he => absurd he List.not_mem_nil⟩
  exact pairwise_foldl (references payer ixs) [] [] hempty List.Pairwise.nil

-- What a table takes over is listed in the order of the roster, and tables before
-- it do not change that order.
theorem share_sublist (r : Roster) (before : List LookupTable) (t : LookupTable)
    (writable : Bool) : ((r.beyond before).share t writable).Sublist r.keys := by
  have hbeyond : (r.beyond before).entries.Sublist r.entries := List.filter_sublist
  have hshare := (List.filter_sublist (l := (r.beyond before).entries)
    (p := fun e => e.role = ⟨false, writable⟩ ∧ e.key ∈ t.addresses)).trans hbeyond
  exact hshare.map _

/-- A call that yields nothing leaves the roster as it is, whether it failed or found
    nothing. -/
theorem extract_unchanged (r : Roster) (t : LookupTable)
    (h : ∀ x, (r.extract t).1 ≠ .ok (some x)) : (r.extract t).2 = r := by
  unfold extract at h ⊢
  cases hx : r.extraction? t with
  | error e => rfl
  | ok outcome =>
      cases outcome with
      | none => rfl
      | some x =>
          simp only [hx] at h
          exact absurd rfl (h x)

/-- A table fails, or it finds nothing, or it hands over its share. Only the last
    changes the roster. -/
theorem extract_cases (r : Roster) (t : LookupTable) (hnodup : r.keys.Nodup) :
    r.extract t = (.error .lookupOverflow, r) ∨ r.extract t = (.ok none, r) ∨
      ∃ x, r.Reaches t ∧ r.handOver t = some x ∧ r.extract t = (.ok (some x), r.beyond [t]) := by
  by_cases hreach : r.Reaches t
  · cases hx : r.handOver t with
    | none =>
        have hfound := extraction?_of_reaches r t hreach
        rw [hx] at hfound
        exact .inr (.inl (by simp only [extract, hfound]))
    | some x =>
        have hextract := extract_of_reaches r t hnodup hreach
        rw [hx] at hextract
        exact .inr (.inr ⟨x, hreach, rfl, hextract⟩)
  · have hfault := extraction?_of_not_reaches r t hreach
    exact .inl (by simp only [extract, hfault])

/-- A turn in which a table makes a record. -/
def HandsOver (r : Roster) (turn : List LookupTable × LookupTable)
    (record : LookupTable × Extraction) : Prop :=
  record.1 = turn.2 ∧ (r.beyond turn.1).Reaches turn.2 ∧
    (r.beyond turn.1).handOver turn.2 = some record.2

-- The induction is on the tables that are left; `before` are the tables that made
-- a record so far. A table without a record does not join them.
theorem extractEach_turns (r : Roster) (hnodup : r.keys.Nodup) (tables before : List LookupTable) :
    ((r.beyond before).extractEach tables).2
        = r.beyond (before ++ ((r.beyond before).extractEach tables).1.map (·.1)) ∧
      List.Forall₂ r.HandsOver
        (LookupTable.turns before (((r.beyond before).extractEach tables).1.map (·.1)))
        ((r.beyond before).extractEach tables).1 := by
  induction tables generalizing before with
  | nil =>
      rw [extractEach, List.map_nil, List.append_nil]
      exact ⟨rfl, .nil⟩
  | cons t rest ih =>
      have hcases := extract_cases (r.beyond before) t (nodup_keys_beyond r before hnodup)
      rcases hcases with hextract | hextract | ⟨x, hreach, hx, hextract⟩
      · simp only [extractEach, hextract]
        exact ih before
      · simp only [extractEach, hextract]
        exact ih before
      · rw [beyond_append] at hextract
        rcases ih (before ++ [t]) with ⟨hlast, hturns⟩
        rw [List.append_assoc, List.singleton_append] at hlast
        simp only [extractEach, hextract, List.map_cons, LookupTable.turns]
        exact ⟨hlast, .cons ⟨rfl, hreach, hx⟩ hturns⟩

-- Every turn has a record, so the records are what the tables hand over.
theorem handOvers_of_turns (r : Roster) (before tables : List LookupTable)
    (records : List (LookupTable × Extraction))
    (h : List.Forall₂ r.HandsOver (LookupTable.turns before tables) records) :
    r.handOvers before tables = records.map (·.2) := by
  rw [handOvers]
  generalize LookupTable.turns before tables = turns at h
  induction h with
  | nil => rfl
  | cons hrecord _ ih => rw [List.filterMap_cons, hrecord.2.2, ih, List.map_cons]

/-- The record of a turn is true to its table and to the mentions. -/
theorem records_of_handsOver (payer : Address) (ixs : List Instruction)
    (turn : List LookupTable × LookupTable) (record : LookupTable × Extraction)
    (h : (gather payer ixs).HandsOver turn record) : record.2.Records payer ixs record.1 := by
  rcases record with ⟨t, x⟩
  rcases h with ⟨htable, hreach, hx⟩
  simp only at htable hx ⊢
  rw [htable]
  -- A record is made only if there is something to take over.
  by_cases hempty : ((gather payer ixs).beyond turn.1).share turn.2 true = [] ∧
      ((gather payer ixs).beyond turn.1).share turn.2 false = []
  · rw [handOver, if_pos hempty] at hx
    exact absurd hx (by simp only [reduceCtorEq, not_false_eq_true])
  rw [handOver, if_neg hempty, Option.some.injEq] at hx
  have hloads := loads_loadingOf (gather payer ixs) turn hreach hempty
  have hshare := mem_share_beyond payer ixs turn.1 turn.2
  -- Whatever a key is taken over as, its place among the two lists is decided by
  -- what is asked for it.
  have hrole : ∀ key ∈ x.loaded.toList, ∀ writable,
      key ∈ ((gather payer ixs).beyond turn.1).share turn.2 writable ↔
        asksFor payer ixs Role.writable key = writable := by
    intro key hkey writable
    refine ⟨fun hmem => ((hshare writable key).mp hmem).2.2.1, fun hasked => ?_⟩
    rw [← hx] at hkey
    rcases List.mem_append.mp hkey with hmem | hmem
    · have hall := (hshare true key).mp hmem
      exact (hshare writable key).mpr ⟨hall.1, hall.2.1, hasked, hall.2.2.2⟩
    · have hall := (hshare false key).mp hmem
      exact (hshare writable key).mpr ⟨hall.1, hall.2.1, hasked, hall.2.2.2⟩
  have horder : ∀ writable, (((gather payer ixs).beyond turn.1).share turn.2 writable).Pairwise
      fun a b => firstMention payer ixs a < firstMention payer ixs b :=
    fun writable => (pairwise_gather payer ixs).sublist (share_sublist _ turn.1 turn.2 writable)
  rw [← hx] at hrole ⊢
  exact ⟨hloads, fun key hkey => hrole key hkey true, fun key hkey => hrole key hkey false,
    horder true, horder false⟩

section Run

variable (payer : Address) (ixs : List Instruction)

-- Carried keys and taken ones are together the gathered ones, and these have no
-- key twice.
theorem count_conserved (used : List LookupTable) (records : List (LookupTable × Extraction))
    (h : List.Forall₂ (gather payer ixs).HandsOver (LookupTable.turns [] used) records)
    (key : Address) :
    ((gather payer ixs).beyond used).keys.count key + (takenKeys records).count key
      = if key ∈ mentionedKeys payer ixs then 1 else 0 := by
  have hmoved := perm_handOvers (gather payer ixs) [] used
  rw [List.nil_append, beyond_nil, handOvers_of_turns _ [] used records h, List.flatMap_map] at hmoved
  have hcount := List.perm_iff_count.mp hmoved key
  rw [List.count_append] at hcount
  rw [takenKeys, hcount]
  have hnodup := nodup_keys_gather payer ixs
  by_cases hkey : key ∈ mentionedKeys payer ixs
  · rw [if_pos hkey]
    exact List.count_eq_one_of_mem hnodup ((mem_keys_gather payer ixs key).mpr hkey)
  · rw [if_neg hkey]
    exact List.count_eq_zero.mpr fun hmem => hkey ((mem_keys_gather payer ixs key).mp hmem)

/-- What is left of a roster has the roles that were asked for, and is in no table that
    was used unless it signs. -/
theorem get?_beyond (used : List LookupTable) (key : Address) (role : Role)
    (h : ((gather payer ixs).beyond used).get? key = some role) :
    key ∈ mentionedKeys payer ixs ∧ role = mergedRole payer ixs key ∧
      (role.signer = true ∨ ¬ LookupTable.Hold used key) := by
  have hnodup := nodup_keys_beyond _ used (nodup_keys_gather payer ixs)
  rw [get?_eq_some_iff _ hnodup, mem_beyond, mem_gather] at h
  exact ⟨h.1.1, h.1.2, h.2⟩

-- A table that was used holds no key that is left and does not sign, so it has
-- nothing to take over.
theorem extract_used (used : List LookupTable) (t : LookupTable) (ht : t ∈ used) :
    ((gather payer ixs).beyond used).extract t
      = (.ok none, (gather payer ixs).beyond used) := by
  have hshare : ∀ writable, ((gather payer ixs).beyond used).share t writable = [] := by
    intro writable
    rw [List.eq_nil_iff_forall_not_mem]
    intro key hkey
    rcases (mem_share_beyond payer ixs used t writable key).mp hkey with ⟨_, _, _, hnot, hmem⟩
    exact hnot ⟨t, ht, hmem⟩
  have hreach : ((gather payer ixs).beyond used).Reaches t := by
    intro writable key hkey
    rw [hshare writable] at hkey
    exact absurd hkey List.not_mem_nil
  have hfound := extraction?_of_reaches _ t hreach
  rw [handOver, if_pos ⟨hshare true, hshare false⟩] at hfound
  simp only [extract, hfound]

section Turns

variable (used : List LookupTable) (records : List (LookupTable × Extraction))
  (h : List.Forall₂ (gather payer ixs).HandsOver (LookupTable.turns [] used) records)

include h

/-- A mentioned key is in one place: in the roster with its role, or once in what was
    taken. -/
theorem onePlace_of_turns (key : Address) (hkey : key ∈ mentionedKeys payer ixs) :
    (((gather payer ixs).beyond used).get? key = some (mergedRole payer ixs key) ∧
        (takenKeys records).count key = 0) ∨
      (((gather payer ixs).beyond used).get? key = none ∧ (takenKeys records).count key = 1) := by
  have hone := count_conserved payer ixs used records h key
  rw [if_pos hkey] at hone
  cases hrole : ((gather payer ixs).beyond used).get? key with
  | none =>
      have habsent := List.count_eq_zero.mpr ((get?_eq_none_iff _ key).mp hrole)
      exact .inr ⟨rfl, by omega⟩
  | some role =>
      have hpresent : key ∈ ((gather payer ixs).beyond used).keys := by
        by_contra hc
        rw [(get?_eq_none_iff _ key).mpr hc] at hrole
        exact absurd hrole (by simp only [reduceCtorEq, not_false_eq_true])
      have hpositive := List.count_pos_iff.mpr hpresent
      exact .inl ⟨by rw [(get?_beyond payer ixs used key role hrole).2.1], by omega⟩

/-- Keys that are not mentioned are neither in the roster nor in what was taken. -/
theorem noOther_of_turns (key : Address) (hkey : key ∉ mentionedKeys payer ixs) :
    ((gather payer ixs).beyond used).get? key = none ∧ key ∉ takenKeys records := by
  have hzero := count_conserved payer ixs used records h key
  rw [if_neg hkey] at hzero
  exact ⟨(get?_eq_none_iff _ key).mpr (List.count_eq_zero.mp (by omega)),
    List.count_eq_zero.mp (by omega)⟩

/-- What is taken does not sign. -/
theorem unsigned_of_turns (key : Address) (hkey : key ∈ takenKeys records) :
    asksFor payer ixs Role.signer key = false := by
  by_contra hsigner
  rw [Bool.not_eq_false] at hsigner
  have hmentioned : key ∈ mentionedKeys payer ixs := by
    by_contra hc
    exact (noOther_of_turns payer ixs used records h key hc).2 hkey
  -- A signer is left behind by all tables, so it would be in two places.
  have hstays : ⟨key, mergedRole payer ixs key⟩ ∈ ((gather payer ixs).beyond used).entries :=
    (mem_beyond _ _ _).mpr ⟨(mem_gather payer ixs _).mpr ⟨hmentioned, rfl⟩, .inl hsigner⟩
  have hpresent : key ∈ ((gather payer ixs).beyond used).keys :=
    List.mem_map_of_mem (f := (·.key)) hstays
  have hone := count_conserved payer ixs used records h key
  rw [if_pos hmentioned] at hone
  have htaken := List.count_pos_iff.mpr hkey
  have hcarried := List.count_pos_iff.mpr hpresent
  omega

end Turns

-- What is left is counted by the keys that are still there.
theorem length_eq_card_carried (used : List LookupTable) :
    ((gather payer ixs).beyond used).length = ((mentionedKeys payer ixs).filter fun key =>
      (((gather payer ixs).beyond used).get? key).isSome).card := by
  have hleft := nodup_keys_beyond _ used (nodup_keys_gather payer ixs)
  rw [Roster.length, ← List.length_map (f := (·.key))]
  refine length_eq_card _ _ hleft fun key => ?_
  rw [Finset.mem_filter]
  constructor
  · intro hkey
    rcases List.mem_map.mp hkey with ⟨⟨_, role⟩, hmem, rfl⟩
    have hrole := (get?_eq_some_iff _ hleft _ role).mpr hmem
    exact ⟨(get?_beyond payer ixs used _ role hrole).1, by rw [hrole, Option.isSome_some]⟩
  · intro hcarried
    rcases Option.isSome_iff_exists.mp hcarried.2 with ⟨role, hrole⟩
    exact List.mem_map_of_mem (f := (·.key)) ((get?_eq_some_iff _ hleft key role).mp hrole)

/-- Every run conserves keys, whatever tables it goes through. -/
theorem extractEach_conserves (tables : List LookupTable) :
    Conserves payer ixs ((gather payer ixs).extractEach tables).1
      ((gather payer ixs).extractEach tables).2 := by
  have hturns := extractEach_turns (gather payer ixs) (nodup_keys_gather payer ixs) tables []
  rw [beyond_nil, List.nil_append] at hturns
  -- The run is given by its records, and its tables are those of the records.
  generalize ((gather payer ixs).extractEach tables).1 = records at hturns
  rcases hturns with ⟨hlast, hrecords⟩
  rw [hlast]
  exact {
    onePlace := onePlace_of_turns payer ixs _ records hrecords
    noOther := noOther_of_turns payer ixs _ records hrecords
    unsigned := unsigned_of_turns payer ixs _ records hrecords
    payerStays := by
      have hfirst := payerFirst_beyond _ (records.map (·.1)) (payerFirst_gather payer ixs)
      rw [get?_eq_some_iff _ (nodup_keys_beyond _ _ (nodup_keys_gather payer ixs))]
      exact List.mem_of_head? hfirst
    recorded := by
      intro record hrecord
      rcases Outcome.mem_of_forall₂_right _ _ _ hrecords record hrecord with ⟨turn, _, hturn⟩
      exact records_of_handsOver payer ixs turn record hturn
    length := length_eq_card_carried payer ixs _
    unchanged := fun t => extract_unchanged _ t
    exhausted := by
      intro record hrecord key role hrole hsigner hmem
      rcases (get?_beyond payer ixs _ key role hrole).2.2 with hsigns | hnot
      · rw [hsigner] at hsigns
        exact Bool.false_ne_true hsigns
      · exact hnot ⟨record.1, List.mem_map_of_mem hrecord, hmem⟩
    repeated := fun record hrecord =>
      extract_used payer ixs _ record.1 (List.mem_map_of_mem hrecord) }

end Run

-- The first table holds a writable key within reach and a readonly one out of reach,
-- and fails. The second takes over the writable key, which it has twice, and finds
-- nothing when it is asked again.
example :
    let key (n : UInt8) : Address := Octets.replicate 32 n
    let ixs : List Instruction :=
      [⟨key 9, [⟨key 2, ⟨true, false⟩⟩, ⟨key 3, ⟨false, true⟩⟩, ⟨key 4, .plain⟩], []⟩]
    let far : LookupTable := ⟨key 20, key 3 :: List.replicate 255 (key 0) ++ [key 4]⟩
    let near : LookupTable := ⟨key 21, [key 2, key 3, key 3]⟩
    (gather (key 1) ixs).extractEach [far, near, near, far] =
      ([(near, ⟨⟨key 21, [1], []⟩, ⟨[key 3], []⟩⟩)],
        ⟨key 1, [⟨key 1, .payer⟩, ⟨key 9, .plain⟩, ⟨key 2, ⟨true, false⟩⟩,
          ⟨key 4, .plain⟩]⟩) := by
  decide +kernel

end Roster

end Cosigner
