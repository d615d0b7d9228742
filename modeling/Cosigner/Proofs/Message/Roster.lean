import Cosigner.Message.Compile
import Cosigner.Proofs.Outcome
import Mathlib.Data.List.Nodup

/-!
# What a Roster Holds

A roster is filled one mention at a time, relieved by one table at a time and
laid out at the end. Through all of this the entry of a key says what the
mentions of the key allow together, and nothing else decides the role that the
key has in the message.

`Tallies` states this for the filling: every mentioned key has one entry, with
the pooled role of its mentions. A table only takes entries away, so what is
said of the entries of a gathered roster stays true of all later ones. An
extraction is `Sound` if its indexes name its keys and its keys were entries of
the right role.

The layout has no roles in it, only counts. `layout_role` reads the role of a
place back from the counts and finds an entry with exactly this role.

## Main definitions

* `pooled`: What the mentions of a key allow together.
* `Tallies`: Entries that sum up mentions.
* `Extraction.Sound`: An extraction that fits its roster and its table.

## Theorems

* `Roster.tallies_note`: One more mention keeps the entries summed up.
* `Roster.tallies_gather`: A gathered roster sums up its references.
* `Roster.extraction?_sound`: What a table takes over fits.
* `Roster.extractAll_sound`: The same for tables in turn.
* `Roster.layout_role`: The header gives every carried key the role of its
  entry.
-/

namespace Cosigner

/-- What the mentions of a key allow together. -/
def pooled (mentions : List AccountRef) (key : Address) : Role :=
  ⟨mentions.any fun r => r.key = key && r.role.signer,
    mentions.any fun r => r.key = key && r.role.writable⟩

/-- A further mention counts for its own key only. -/
theorem pooled_append (ms : List AccountRef) (m : AccountRef) (key : Address) :
    pooled (ms ++ [m]) key
      = if m.key = key then (pooled ms key).join m.role else pooled ms key := by
  by_cases h : m.key = key
  · simp only [pooled, Role.join, List.any_append, List.any_cons, List.any_nil, h, decide_true,
      Bool.true_and, Bool.or_false, if_true]
  · simp only [pooled, List.any_append, List.any_cons, List.any_nil, h, decide_false,
      Bool.false_and, Bool.or_false, if_false]

-- Nothing is asked for a key that is not mentioned.
theorem pooled_of_notMem (ms : List AccountRef) (key : Address)
    (h : key ∉ ms.map (·.key)) : pooled ms key = .plain := by
  have hne : ∀ r ∈ ms, r.key ≠ key := by
    intro r hr hc
    exact h (List.mem_map.mpr ⟨r, hr, hc⟩)
  have hany : ∀ flag : Role → Bool, (ms.any fun r => r.key = key && flag r.role) = false := by
    intro flag
    rw [List.any_eq_false]
    intro r hr
    simp only [hne r hr, decide_false, Bool.false_and, Bool.false_eq_true, not_false_eq_true]
  simp only [pooled, hany Role.signer, hany Role.writable, Role.plain]

/-- Entries that sum up mentions: each mentioned key once, with all that its
    mentions allow. -/
structure Tallies (entries mentions : List AccountRef) : Prop where
  -- No key has two entries.
  nodup : (entries.map (·.key)).Nodup
  -- The keys with an entry are the mentioned ones.
  keys : ∀ key, key ∈ entries.map (·.key) ↔ key ∈ mentions.map (·.key)
  -- An entry has the pooled role of its key.
  role : ∀ e ∈ entries, e.role = pooled mentions e.key

/-- A place in two lists in a row is a place in the first, or in the second when
    counted from its start. -/
theorem getElem?_append_cases (xs ys : List Address) (place : Nat) (key : Address)
    (h : (xs ++ ys)[place]? = some key) :
    (place < xs.length ∧ xs[place]? = some key) ∨
      (xs.length ≤ place ∧ ys[place - xs.length]? = some key) := by
  by_cases hlt : place < xs.length
  · rw [List.getElem?_append_left hlt] at h
    exact Or.inl ⟨hlt, h⟩
  · rw [List.getElem?_append_right (by omega)] at h
    exact Or.inr ⟨by omega, h⟩

namespace Roster

/-- A key is noted at the end, if it is not there yet. -/
theorem map_key_note (es : List AccountRef) (m : AccountRef) :
    (note es m).map (·.key)
      = if m.key ∈ es.map (·.key) then es.map (·.key) else es.map (·.key) ++ [m.key] := by
  induction es with
  | nil =>
      simp only [note, List.map_cons, List.map_nil, List.not_mem_nil, if_false, List.nil_append]
  | cons e rest ih =>
      rw [note]
      by_cases h : e.key = m.key
      · simp only [h, if_true, List.map_cons, List.mem_cons, true_or]
      · have hne : ¬ m.key = e.key := fun hc => h hc.symm
        simp only [h, if_false, List.map_cons, ih, List.mem_cons, hne, false_or]
        by_cases hm : m.key ∈ rest.map (·.key)
        · rw [if_pos hm, if_pos hm]
        · rw [if_neg hm, if_neg hm, List.cons_append]

/-- An entry after one more mention is an entry of another key, or the entry of
    the mentioned key with the new role joined, or new. -/
theorem mem_note (es : List AccountRef) (m e : AccountRef) (hnodup : (es.map (·.key)).Nodup)
    (h : e ∈ note es m) :
    (e ∈ es ∧ e.key ≠ m.key) ∨
      (∃ e₀ ∈ es, e₀.key = m.key ∧ e = ⟨m.key, e₀.role.join m.role⟩) ∨
      (m.key ∉ es.map (·.key) ∧ e = m) := by
  induction es with
  | nil =>
      rw [note, List.mem_singleton] at h
      exact Or.inr (Or.inr ⟨List.not_mem_nil, h⟩)
  | cons x rest ih =>
      rw [List.map_cons, List.nodup_cons] at hnodup
      rw [note] at h
      by_cases hx : x.key = m.key
      · rw [if_pos hx, List.mem_cons] at h
        rcases h with rfl | hrest
        · refine Or.inr (Or.inl ⟨x, List.mem_cons_self, hx, ?_⟩)
          rw [← hx]
        · -- The keys differ, so no later entry is the mentioned key's.
          refine Or.inl ⟨List.mem_cons_of_mem _ hrest, fun hc => hnodup.1 ?_⟩
          rw [hx, ← hc]
          exact List.mem_map_of_mem hrest
      · rw [if_neg hx, List.mem_cons] at h
        rcases h with rfl | hrest
        · exact Or.inl ⟨List.mem_cons_self, hx⟩
        · rcases ih hnodup.2 hrest with ⟨he, hne⟩ | ⟨e₀, he₀, hkey, heq⟩ | ⟨hnot, heq⟩
          · exact Or.inl ⟨List.mem_cons_of_mem _ he, hne⟩
          · exact Or.inr (Or.inl ⟨e₀, List.mem_cons_of_mem _ he₀, hkey, heq⟩)
          · refine Or.inr (Or.inr ⟨?_, heq⟩)
            rw [List.map_cons, List.mem_cons, not_or]
            exact ⟨fun hc => hx hc.symm, hnot⟩

/-- One more mention keeps the entries summed up. -/
theorem tallies_note (es ms : List AccountRef) (m : AccountRef) (h : Tallies es ms) :
    Tallies (note es m) (ms ++ [m]) where
  nodup := by
    rw [map_key_note]
    by_cases hm : m.key ∈ es.map (·.key)
    · rw [if_pos hm]
      exact h.nodup
    · rw [if_neg hm, ← List.concat_eq_append]
      exact List.Nodup.concat hm h.nodup
  keys := by
    intro key
    rw [map_key_note, List.map_append, List.map_singleton, List.mem_append, List.mem_singleton,
      ← h.keys key]
    by_cases hm : m.key ∈ es.map (·.key)
    · rw [if_pos hm]
      refine ⟨Or.inl, fun hk => ?_⟩
      rcases hk with hk | rfl
      · exact hk
      · exact hm
    · rw [if_neg hm, List.mem_append, List.mem_singleton]
  role := by
    intro e he
    rw [pooled_append]
    rcases mem_note es m e h.nodup he with ⟨hes, hne⟩ | ⟨e₀, he₀, hkey, rfl⟩ | ⟨hnot, rfl⟩
    · rw [if_neg (fun hc => hne hc.symm)]
      exact h.role e hes
    · rw [if_pos rfl, h.role e₀ he₀, hkey]
    · have hplain : pooled ms e.key = .plain :=
        pooled_of_notMem ms e.key (fun hc => hnot ((h.keys e.key).mpr hc))
      simp only [if_true, hplain, Role.join, Role.plain, Bool.false_or]

/-- Mentions one after another keep the entries summed up. -/
theorem tallies_foldl (later es ms : List AccountRef) (h : Tallies es ms) :
    Tallies (later.foldl note es) (ms ++ later) := by
  induction later generalizing es ms with
  | nil =>
      rw [List.append_nil]
      exact h
  | cons m rest ih =>
      rw [List.foldl_cons, List.append_cons]
      exact ih (note es m) (ms ++ [m]) (tallies_note es ms m h)

/-- A gathered roster sums up its references. -/
theorem tallies_gather (payer : Address) (ixs : List Instruction) :
    Tallies (gather payer ixs).entries (references payer ixs) := by
  have hempty : Tallies [] [] :=
    ⟨List.nodup_nil, fun key => Iff.rfl, fun e he => absurd he List.not_mem_nil⟩
  exact tallies_foldl (references payer ixs) [] [] hempty

/-- A table matches keys that it holds and that do not sign. -/
theorem mem_matching (r : Roster) (table : LookupTable) (writable : Bool) (place : Nat)
    (key : Address) :
    (place, key) ∈ r.matching table writable ↔
      ⟨key, ⟨false, writable⟩⟩ ∈ r.entries ∧ table.addresses.idxOf? key = some place := by
  rw [matching, List.mem_filterMap]
  constructor
  · intro h
    rcases h with ⟨e, he, hplace⟩
    rw [List.mem_filter] at he
    rcases Option.map_eq_some_iff.mp hplace with ⟨_, hidx, hpair⟩
    rw [Prod.mk.injEq] at hpair
    rw [← hpair.1, ← hpair.2]
    -- A loadable entry of this writability has no other role than the one asked for.
    have hrole : e.role = ⟨false, writable⟩ := by
      rcases e with ⟨k, ⟨signer, w⟩⟩
      simpa only [loadable, Role.invoked, Bool.not_false, Bool.and_true, Bool.and_eq_true,
        Bool.not_eq_true', beq_iff_eq, Role.mk.injEq] using he.2
    rw [← hrole]
    exact ⟨he.1, hidx⟩
  · intro h
    rcases h with ⟨hentry, hidx⟩
    refine ⟨⟨key, ⟨false, writable⟩⟩, List.mem_filter.mpr ⟨hentry, ?_⟩, ?_⟩
    · simp only [loadable, Role.invoked, Bool.not_false, Bool.and_self, beq_self_eq_true]
    · rw [hidx, Option.map_some]

/-- Places become bytes if they all fit. -/
theorem located_eq_ok (found : List (Nat × Address)) (indexes : List UInt8)
    (keys : List Address) :
    located found = .ok (indexes, keys) ↔
      (∀ p ∈ found, p.1 < 256) ∧ indexes = found.map (fun p => UInt8.ofNat p.1) ∧
        keys = found.map (·.2) := by
  unfold located
  by_cases h : (found.all fun p => p.1 < 256) = true
  · rw [if_pos h, Except.ok.injEq, Prod.mk.injEq]
    have hall : ∀ p ∈ found, p.1 < 256 := by
      intro p hp
      exact of_decide_eq_true (List.all_eq_true.mp h p hp)
    exact ⟨fun heq => ⟨hall, heq.1.symm, heq.2.symm⟩, fun heq => ⟨heq.2.1.symm, heq.2.2.symm⟩⟩
  · rw [if_neg h]
    refine ⟨fun hc => absurd hc (by simp only [reduceCtorEq, not_false_eq_true]), fun hc => ?_⟩
    exact absurd (List.all_eq_true.mpr fun p hp => decide_eq_true (hc.1 p hp)) h

end Roster

/-- Indexes that name keys by entries of a table. -/
def NamedIn (table : LookupTable) (indexes : List UInt8) (keys : List Address) : Prop :=
  List.Forall₂ (fun index key => table.addresses[index.toNat]? = some key) indexes keys

/-- An extraction that fits its roster and its table. -/
structure Extraction.Sound (x : Extraction) (r : Roster) (table : LookupTable) : Prop where
  -- The lookup is one of the table.
  named : x.lookup.table = table.key
  -- The indexes name the keys.
  writableNamed : NamedIn table x.lookup.writable x.loaded.writable
  readonlyNamed : NamedIn table x.lookup.readonly x.loaded.readonly
  -- The keys are entries of the right role.
  writableRole : ∀ key ∈ x.loaded.writable, ⟨key, ⟨false, true⟩⟩ ∈ r.entries
  readonlyRole : ∀ key ∈ x.loaded.readonly, ⟨key, ⟨false, false⟩⟩ ∈ r.entries

theorem Extraction.Sound.mono {x : Extraction} {r r' : Roster} {table : LookupTable}
    (hsub : r.entries ⊆ r'.entries) (h : x.Sound r table) : x.Sound r' table :=
  ⟨h.named, h.writableNamed, h.readonlyNamed, fun key hkey => hsub (h.writableRole key hkey),
    fun key hkey => hsub (h.readonlyRole key hkey)⟩

namespace Roster

/-- A match that fits into bytes names entries of the table. -/
theorem namedIn_located (r : Roster) (table : LookupTable) (writable : Bool)
    (indexes : List UInt8) (keys : List Address)
    (h : located (r.matching table writable) = .ok (indexes, keys)) :
    NamedIn table indexes keys ∧ ∀ key ∈ keys, ⟨key, ⟨false, writable⟩⟩ ∈ r.entries := by
  rcases (located_eq_ok _ _ _).mp h with ⟨hsmall, rfl, rfl⟩
  constructor
  · rw [NamedIn, List.forall₂_map_left_iff, List.forall₂_map_right_iff, List.forall₂_same]
    rintro ⟨place, key⟩ hp
    rcases List.idxOf?_eq_some_iff.mp ((mem_matching r table writable place key).mp hp).2 with
      ⟨hlt, hget, _⟩
    rw [UInt8.toNat_ofNat_of_lt' (hsmall _ hp), List.getElem?_eq_getElem hlt, hget]
  · intro key hkey
    rcases List.mem_map.mp hkey with ⟨⟨place, k⟩, hp, rfl⟩
    exact ((mem_matching r table writable place k).mp hp).1

/-- What a table takes over fits. -/
theorem extraction?_sound (r : Roster) (table : LookupTable) (x : Extraction)
    (h : r.extraction? table = .ok (some x)) : x.Sound r table := by
  unfold extraction? at h
  rcases (Outcome.bind_eq_ok _ _ _).mp h with ⟨⟨wi, wk⟩, hw, h⟩
  rcases (Outcome.bind_eq_ok _ _ _).mp h with ⟨⟨ri, rk⟩, hr, h⟩
  by_cases hempty : (wk.isEmpty && rk.isEmpty) = true
  · simp only [hempty, if_true, Outcome.pure_eq_ok, reduceCtorEq] at h
  · simp only [hempty, Bool.false_eq_true, if_false, Outcome.pure_eq_ok, Option.some.injEq] at h
    rcases namedIn_located r table true wi wk hw with ⟨hwn, hwr⟩
    rcases namedIn_located r table false ri rk hr with ⟨hrn, hrr⟩
    rw [← h]
    exact ⟨rfl, hwn, hrn, hwr, hrr⟩

-- Extraction yields the same as a call that leaves the roster alone.
theorem extract_fst (r : Roster) (table : LookupTable) :
    (r.extract table).1 = r.extraction? table := by
  unfold extract
  cases r.extraction? table with
  | error e => rfl
  | ok outcome =>
      cases outcome with
      | none => rfl
      | some x => rfl

/-- A table only takes entries away. -/
theorem extract_subset (r : Roster) (table : LookupTable) :
    (r.extract table).2.entries ⊆ r.entries := by
  unfold extract
  cases r.extraction? table with
  | error e => exact fun _ he => he
  | ok outcome =>
      cases outcome with
      | none => exact fun _ he => he
      | some x => exact List.filter_subset_self _

/-- Tables in turn succeed if the first one does and the others do on what it
    leaves. -/
theorem extractAll_cons_eq_ok (r last : Roster) (table : LookupTable) (rest : List LookupTable)
    (xs : List Extraction) :
    r.extractAll (table :: rest) = .ok (xs, last) ↔
      ∃ outcome others, r.extraction? table = .ok outcome ∧
        (r.extract table).2.extractAll rest = .ok (others, last) ∧
        outcome.toList ++ others = xs := by
  rw [extractAll, Outcome.bind_eq_ok]
  constructor
  · intro h
    rcases h with ⟨outcome, houtcome, h⟩
    rcases (Outcome.bind_eq_ok _ _ _).mp h with ⟨⟨others, final⟩, hothers, h⟩
    rw [Outcome.pure_eq_ok, Prod.mk.injEq] at h
    rw [h.2] at hothers
    exact ⟨outcome, others, (extract_fst r table).symm.trans houtcome, hothers, h.1⟩
  · intro h
    rcases h with ⟨outcome, others, houtcome, hothers, rfl⟩
    refine ⟨outcome, (extract_fst r table).trans houtcome, ?_⟩
    exact (Outcome.bind_eq_ok _ _ _).mpr ⟨(others, last), hothers, rfl⟩

/-- Tables in turn only take entries away, and what each takes over fits. -/
theorem extractAll_sound (r last : Roster) (tables : List LookupTable) (xs : List Extraction)
    (h : r.extractAll tables = .ok (xs, last)) :
    last.entries ⊆ r.entries ∧ ∀ x ∈ xs, ∃ table ∈ tables, x.Sound r table := by
  induction tables generalizing r xs with
  | nil =>
      rw [extractAll, Except.ok.injEq, Prod.mk.injEq] at h
      rw [← h.1, ← h.2]
      exact ⟨fun _ he => he, fun x hx => absurd hx List.not_mem_nil⟩
  | cons table rest ih =>
      rcases (extractAll_cons_eq_ok r last table rest xs).mp h with
        ⟨outcome, others, houtcome, hothers, rfl⟩
      have hsub := extract_subset r table
      rcases ih _ others hothers with ⟨hlast, hsound⟩
      refine ⟨fun e he => hsub (hlast he), fun x hx => ?_⟩
      rcases List.mem_append.mp hx with hown | hother
      · rw [Option.mem_toList.mp hown] at houtcome
        exact ⟨table, List.mem_cons_self, extraction?_sound r table x houtcome⟩
      · rcases hsound x hother with ⟨other, hmem, hfits⟩
        exact ⟨other, List.mem_cons_of_mem _ hmem, hfits.mono hsub⟩

theorem mem_group (r : Roster) (role : Role) (key : Address) :
    key ∈ r.group role ↔ ⟨key, role⟩ ∈ r.entries := by
  rw [group, List.mem_map]
  constructor
  · intro h
    rcases h with ⟨e, he, rfl⟩
    rw [List.mem_filter, decide_eq_true_iff] at he
    rw [← he.2]
    exact he.1
  · intro h
    exact ⟨⟨key, role⟩, List.mem_filter.mpr ⟨h, decide_eq_true rfl⟩, rfl⟩

/-- The header of a roster's layout: how many keys each group has. -/
def headerOf (r : Roster) : Header :=
  ⟨UInt8.ofNat ((r.group ⟨true, true⟩).length + (r.group ⟨true, false⟩).length),
    UInt8.ofNat (r.group ⟨true, true⟩).length, UInt8.ofNat (r.group ⟨false, true⟩).length⟩

/-- The keys of a roster's layout: its groups in a row. -/
def carriedKeys (r : Roster) : List Address :=
  r.group ⟨true, true⟩ ++ r.group ⟨true, false⟩ ++ r.group ⟨false, true⟩ ++ r.group ⟨false, false⟩

theorem countByte_eq_ok (n : Nat) (b : UInt8) :
    countByte n = .ok b ↔ n < 256 ∧ b = UInt8.ofNat n := by
  unfold countByte
  by_cases h : n < 256
  · rw [if_pos h, Except.ok.injEq]
    exact ⟨fun hb => ⟨h, hb.symm⟩, fun hb => hb.2.symm⟩
  · rw [if_neg h]
    simp only [reduceCtorEq, h, false_and]

/-- A layout that succeeds has room for its keys and its counts, and the payer
    in front. -/
theorem layout_eq_ok (r : Roster) (header : Header) (keys : List Address)
    (h : r.layout = .ok (header, keys)) :
    r.length ≤ 256 ∧ (r.group ⟨true, true⟩).head? = some r.payer ∧
      (r.group ⟨true, true⟩).length + (r.group ⟨true, false⟩).length < 256 ∧
      (r.group ⟨false, true⟩).length < 256 ∧ header = r.headerOf ∧ keys = r.carriedKeys := by
  unfold layout at h
  simp only [Outcome.throw_eq, Outcome.error_bind, Outcome.ite_error_eq_ok] at h
  rcases h with ⟨hlen, h⟩
  cases hhead : (r.group ⟨true, true⟩).head? with
  | none => simp only [hhead, reduceCtorEq] at h
  | some first =>
      -- The three counts are written one after another.
      simp only [hhead, Outcome.ite_error_eq_ok, Outcome.bind_eq_ok, Outcome.pure_eq_ok,
        countByte_eq_ok, Prod.mk.injEq] at h
      rcases h with ⟨hpayer, _, ⟨hsigners, rfl⟩, _, ⟨_, rfl⟩, _, ⟨hwritable, rfl⟩, hheader, hkeys⟩
      rw [not_not.mp hpayer]
      exact ⟨by omega, rfl, hsigners, hwritable, hheader.symm, hkeys.symm⟩

/-- The role that a layout's header gives to a place, as a comparison with the
    sizes of the groups. -/
theorem headerOf_role (r : Roster) (place : Nat)
    (hsigners : (r.group ⟨true, true⟩).length + (r.group ⟨true, false⟩).length < 256)
    (hwritable : (r.group ⟨false, true⟩).length < 256) :
    r.headerOf.role place
      = if place < (r.group ⟨true, true⟩).length + (r.group ⟨true, false⟩).length
        then ⟨true, place < (r.group ⟨true, true⟩).length⟩
        else ⟨false, place - ((r.group ⟨true, true⟩).length + (r.group ⟨true, false⟩).length)
          < (r.group ⟨false, true⟩).length⟩ := by
  have hfirst : (r.group ⟨true, true⟩).length < 256 := by omega
  -- The counts fit into their bytes, so the bytes can be read as the counts.
  simp only [Header.role, Header.isSigner, Header.isWritable, headerOf,
    UInt8.toNat_ofNat_of_lt' hsigners, UInt8.toNat_ofNat_of_lt' hfirst,
    UInt8.toNat_ofNat_of_lt' hwritable]
  by_cases hp : place < (r.group ⟨true, true⟩).length + (r.group ⟨true, false⟩).length
  · simp only [hp, if_true, decide_true]
  · simp only [hp, if_false, decide_false]

/-- The header gives every carried key the role of its entry. -/
theorem layout_role (r : Roster) (header : Header) (keys : List Address)
    (h : r.layout = .ok (header, keys)) (place : Nat) (key : Address)
    (hkey : keys[place]? = some key) : ⟨key, header.role place⟩ ∈ r.entries := by
  rcases layout_eq_ok r header keys h with ⟨_, _, hsigners, hwritable, rfl, rfl⟩
  rw [headerOf_role r place hsigners hwritable]
  rcases getElem?_append_cases _ _ place key hkey with ⟨_, hkey⟩ | ⟨hd, hkey⟩
  · rcases getElem?_append_cases _ _ place key hkey with ⟨_, hkey⟩ | ⟨hc, hkey⟩
    · rcases getElem?_append_cases _ _ place key hkey with ⟨ha, hkey⟩ | ⟨hb, hkey⟩
      · -- Among the writable signers.
        rw [if_pos (by omega), decide_eq_true ha]
        exact (mem_group r _ key).mp (List.mem_of_getElem? hkey)
      · -- Among the readonly signers.
        have hlt := (List.getElem?_eq_some_iff.mp hkey).1
        rw [if_pos (by omega), decide_eq_false (by omega)]
        exact (mem_group r _ key).mp (List.mem_of_getElem? hkey)
    · -- Among the writable non-signers.
      rw [List.length_append] at hc hkey
      have hlt := (List.getElem?_eq_some_iff.mp hkey).1
      rw [if_neg (by omega), decide_eq_true hlt]
      exact (mem_group r _ key).mp (List.mem_of_getElem? hkey)
  · -- Among the readonly non-signers.
    rw [List.length_append, List.length_append] at hd
    rw [if_neg (by omega), decide_eq_false (by omega)]
    exact (mem_group r _ key).mp (List.mem_of_getElem? hkey)

end Roster

end Cosigner
