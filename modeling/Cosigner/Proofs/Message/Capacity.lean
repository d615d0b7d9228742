import Cosigner.Proofs.Message.Layout
import Cosigner.Proofs.Message.RoundTrip
import Mathlib.Data.Finset.Card

/-!
# When Instructions Compile

A message has 256 places and its header counts signers in a byte, and an entry
of a table is named by a byte as well. These limits are checked at different
times, on what is left of the keys by then. This module says in terms of the
instructions and the tables alone which limit is hit, and that nothing else can
go wrong.

Three sets of keys matter. All keys that are mentioned have to have a place. The
signing ones among them have to be counted. The remaining ones, which sign or
are in no table, have to be carried. A key that does not sign belongs to the
first table that holds it, so there is a fourth condition, that it stands within
reach there.

The numbers of keys at each step are numbers of elements of these sets, because a
roster has every key once and because tables and the layout only move keys.

## Main definitions

* `mentionedKeys`, `signingKeys`, `remainingKeys`: The three sets.
* `OutOfReach`: A key that stands out of reach in its table.
* `Roster.space`: The key space of a compilation.

## Theorems

* `mem_gather`: The entries of a gathered roster.
* `Roster.perm_space`: The places of a compilation are the mentioned keys.
* `KeySpace.indexAll_of_room`: Instructions with known keys are indexed.
* `WalletMessage.compile_cases`: The four ways in which a compilation ends.
* `WalletMessage.compile_outcome`: When it ends in which way.
-/

namespace Cosigner

/-- The keys that a payer and instructions mention: the payer, programs and
    accounts. -/
def mentionedKeys (payer : Address) (ixs : List Instruction) : Finset Address :=
  (payer :: ixs.flatMap fun ix => ix.program :: ix.accounts.map (·.key)).toFinset

/-- The mentioned keys that sign: the payer, and accounts that some instruction
    marks as signer. -/
def signingKeys (payer : Address) (ixs : List Instruction) : Finset Address :=
  (mentionedKeys payer ixs).filter fun key => asksFor payer ixs Role.signer key

/-- The mentioned keys that sign or are in no table. -/
def remainingKeys (payer : Address) (ixs : List Instruction) (tables : List LookupTable) :
    Finset Address :=
  (mentionedKeys payer ixs).filter fun key =>
    asksFor payer ixs Role.signer key ∨ ¬ LookupTable.Hold tables key

/-- Some mentioned key does not sign and stands at an entry of the first table that
    holds it that no byte can name. -/
def OutOfReach (payer : Address) (ixs : List Instruction) (tables : List LookupTable) : Prop :=
  ∃ before t after, tables = before ++ t :: after ∧
    ∃ key ∈ mentionedKeys payer ixs, asksFor payer ixs Role.signer key = false ∧
      (∀ u ∈ before, key ∉ u.addresses) ∧ key ∈ t.addresses ∧ 256 ≤ t.addresses.idxOf key

-- The keys of the roster are compared with sets by having the same members, each once.
theorem mem_mentionedKeys (payer : Address) (ixs : List Instruction) (key : Address) :
    key ∈ mentionedKeys payer ixs ↔ key ∈ (references payer ixs).map (·.key) := by
  simp only [mentionedKeys, references, Instruction.references, List.mem_toFinset, List.map_cons,
    List.map_flatMap]

/-- The entries of a gathered roster are the mentioned keys with all that is asked
    for them. -/
theorem mem_gather (payer : Address) (ixs : List Instruction) (e : AccountRef) :
    e ∈ (Roster.gather payer ixs).entries ↔
      e.key ∈ mentionedKeys payer ixs ∧ e.role = mergedRole payer ixs e.key := by
  have htallies := Roster.tallies_gather payer ixs
  have hrole : ∀ e' ∈ (Roster.gather payer ixs).entries, e'.role = mergedRole payer ixs e'.key := by
    intro e' he'
    rw [htallies.role e' he', pooled_references]
  rw [mem_mentionedKeys, ← htallies.keys]
  constructor
  · intro he
    exact ⟨List.mem_map_of_mem he, hrole e he⟩
  · intro h
    rcases e with ⟨key, role⟩
    rcases h with ⟨hkey, hpooled⟩
    rcases List.mem_map.mp hkey with ⟨⟨key', role'⟩, hmem, heq⟩
    simp only at heq hpooled
    -- The entry of the key has the role that is asked for.
    have hrole' := hrole _ hmem
    simp only [heq, ← hpooled] at hrole'
    rwa [heq, hrole'] at hmem

theorem length_eq_card (keys : List Address) (s : Finset Address) (hnodup : keys.Nodup)
    (h : ∀ key, key ∈ keys ↔ key ∈ s) : keys.length = s.card := by
  have hset : keys.toFinset = s := by
    ext key
    rw [List.mem_toFinset, h]
  rw [← hset, List.toFinset_card_of_nodup hnodup]

namespace Roster

theorem nodup_keys_gather (payer : Address) (ixs : List Instruction) :
    (gather payer ixs).keys.Nodup :=
  (tallies_gather payer ixs).nodup

theorem mem_keys_gather (payer : Address) (ixs : List Instruction) (key : Address) :
    key ∈ (gather payer ixs).keys ↔ key ∈ mentionedKeys payer ixs := by
  rw [mem_mentionedKeys]
  exact (tallies_gather payer ixs).keys key

/-- The key space of a compilation: the keys that are left after the tables, and
    those that the tables took over. -/
def space (r : Roster) (tables : List LookupTable) : KeySpace :=
  ⟨(r.beyond tables).carriedKeys, .concat ((r.handOvers [] tables).map (·.loaded))⟩

/-- The places of a compilation are the keys of the roster, each once. -/
theorem perm_space (r : Roster) (tables : List LookupTable) :
    (r.space tables).toList.Perm r.keys := by
  have hloaded := LoadedKeys.perm_toList_concat ((r.handOvers [] tables).map (·.loaded))
  rw [List.flatMap_map] at hloaded
  have hmoved := perm_handOvers r [] tables
  rw [List.nil_append, beyond_nil] at hmoved
  exact ((perm_carriedKeys _).append hloaded).trans hmoved

section Counts

variable (payer : Address) (ixs : List Instruction) (tables : List LookupTable)

/-- There are as many places as mentioned keys, wherever the places are. -/
theorem length_space :
    ((gather payer ixs).space tables).length = (mentionedKeys payer ixs).card := by
  rw [← KeySpace.length_toList, (perm_space _ tables).length_eq]
  exact length_eq_card _ _ (nodup_keys_gather payer ixs) (mem_keys_gather payer ixs)

/-- There are as many carried keys as remaining ones. -/
theorem length_beyond :
    ((gather payer ixs).beyond tables).length = (remainingKeys payer ixs tables).card := by
  have hnodup := nodup_keys_beyond _ tables (nodup_keys_gather payer ixs)
  rw [length, ← List.length_map (f := (·.key))]
  refine length_eq_card _ _ hnodup fun key => ?_
  simp only [remainingKeys, Finset.mem_filter, List.mem_map, mem_beyond, mem_gather]
  constructor
  · intro h
    rcases h with ⟨e, ⟨⟨hkey, hrole⟩, hstays⟩, rfl⟩
    rw [hrole] at hstays
    exact ⟨hkey, hstays⟩
  · intro h
    rcases h with ⟨hkey, hstays⟩
    exact ⟨⟨key, mergedRole payer ixs key⟩, ⟨⟨hkey, rfl⟩, hstays⟩, rfl⟩

/-- There are as many carried signers as keys that sign, since tables take no signer. -/
theorem signerCount_beyond :
    ((gather payer ixs).beyond tables).signerCount = (signingKeys payer ixs).card := by
  have hnodup := nodup_keys_beyond _ tables (nodup_keys_gather payer ixs)
  have hgroups := (perm_carriedKeys _).nodup_iff.mpr hnodup
  rw [signerCount, ← List.length_append]
  refine length_eq_card _ _ ?_ fun key => ?_
  · rw [carriedKeys, List.append_assoc] at hgroups
    exact (List.nodup_append.mp hgroups).1
  · simp only [signingKeys, Finset.mem_filter, List.mem_append, mem_group, mem_beyond, mem_gather,
      mergedRole, Role.mk.injEq, true_or, and_true]
    cases asksFor payer ixs Role.writable key <;>
      simp only [and_true, and_false, or_false, false_or, eq_comm, Bool.false_eq_true]

/-- What a table takes over, behind other tables: mentioned keys that do not sign,
    that it holds and that none of the others does. -/
theorem mem_share_beyond (t : LookupTable) (writable : Bool) (key : Address) :
    key ∈ ((gather payer ixs).beyond tables).share t writable ↔
      key ∈ mentionedKeys payer ixs ∧ asksFor payer ixs Role.signer key = false ∧
        asksFor payer ixs Role.writable key = writable ∧ ¬ LookupTable.Hold tables key ∧
        key ∈ t.addresses := by
  simp only [mem_share, mem_beyond, mem_gather, mergedRole, Role.mk.injEq, eq_comm (a := false),
    eq_comm (a := writable), Bool.true_eq_false, false_or, and_assoc]

/-- All tables reach the keys that they have to take over, unless some key is out
    of reach. -/
theorem reaches_iff :
    (∀ turn ∈ LookupTable.turns [] tables,
        ((gather payer ixs).beyond turn.1).Reaches turn.2) ↔ ¬ OutOfReach payer ixs tables := by
  constructor
  · intro h hout
    rcases hout with ⟨before, t, after, htables, key, hkey, hsigner, hnot, hmem, hfar⟩
    have hturn : (before, t) ∈ LookupTable.turns [] tables :=
      (LookupTable.mem_turns [] tables before t).mpr ⟨before, after, htables, rfl⟩
    have hshare := (mem_share_beyond payer ixs before t _ key).mpr ⟨hkey, hsigner, rfl,
      fun hhold => by rcases hhold with ⟨u, hu, hmem⟩; exact hnot u hu hmem, hmem⟩
    exact absurd (h _ hturn _ key hshare) (Nat.not_lt_of_le hfar)
  · intro h turn hturn writable key hshare
    rcases (LookupTable.mem_turns [] tables turn.1 turn.2).mp hturn with
      ⟨before, after, htables, hseen⟩
    rw [List.nil_append] at hseen
    rcases (mem_share_beyond payer ixs turn.1 turn.2 writable key).mp hshare with
      ⟨hkey, hsigner, _, hnot, hmem⟩
    refine Nat.lt_of_not_le fun hfar => h ⟨before, turn.2, after, htables, key, hkey, hsigner,
      fun u hu hheld => hnot ⟨u, by rwa [hseen], hheld⟩, hmem, hfar⟩

end Counts

end Roster

namespace KeySpace

variable (s : KeySpace)

/-- A key has a place exactly if it occurs. -/
theorem placeOf_isOk (key : Address) : (∃ place, s.placeOf key = .ok place) ↔ key ∈ s.toList := by
  unfold placeOf
  cases hidx : s.toList.idxOf? key with
  | none =>
      simp only [reduceCtorEq, exists_false, false_iff]
      exact List.idxOf?_eq_none_iff.mp hidx
  | some place =>
      simp only [Except.ok.injEq, exists_eq', true_iff]
      rw [← List.isSome_idxOf?, hidx, Option.isSome_some]

/-- Instructions whose keys all occur are indexed, if there are places enough. -/
theorem indexAll_of_room (ixs : List Instruction) (hroom : s.length ≤ capacity)
    (hkeys : ∀ ix ∈ ixs, ∀ ref ∈ ix.references, ref.key ∈ s.toList) :
    ∃ compiled, s.indexAll ixs = .ok compiled := by
  simp only [indexAll, if_neg (Nat.not_lt_of_le hroom), Outcome.mapM_eq_ok, Outcome.exists_forall₂]
  intro ix hix
  have hprogram := (s.placeOf_isOk ix.program).mpr (hkeys ix hix _ List.mem_cons_self)
  have haccounts : ∃ places, ix.accounts.mapM (fun ref => s.placeOf ref.key) = .ok places := by
    rw [funext fun places => propext (Outcome.mapM_eq_ok _ _ places), Outcome.exists_forall₂]
    intro ref href
    exact (s.placeOf_isOk ref.key).mpr (hkeys ix hix ref (List.mem_cons_of_mem _ href))
  rcases hprogram with ⟨program, hprogram⟩
  rcases haccounts with ⟨accounts, haccounts⟩
  exact ⟨_, by rw [index, haccounts, hprogram]; rfl⟩

-- Too many places are noticed before any key is looked up.
theorem indexAll_of_full (ixs : List Instruction) (h : capacity < s.length) :
    s.indexAll ixs = .error .indexOverflow := by
  rw [indexAll, if_pos h]

end KeySpace

namespace WalletMessage

variable (payer : Address) (ixs : List Instruction) (tables : List LookupTable)

/-- Every key of an instruction is mentioned. -/
theorem mem_mentionedKeys_of_references (ix : Instruction) (hix : ix ∈ ixs) (ref : AccountRef)
    (href : ref ∈ ix.references) : ref.key ∈ mentionedKeys payer ixs := by
  rw [mem_mentionedKeys, references, List.map_cons, List.map_flatMap]
  exact List.mem_cons_of_mem _
    (List.mem_flatMap.mpr ⟨ix, hix, List.mem_map_of_mem href⟩)

/-- A compilation fails at once if some key is out of reach. -/
theorem compile_of_outOfReach (h : OutOfReach payer ixs tables) :
    compile payer ixs tables = .error .lookupOverflow := by
  have hfail := Roster.extractAll_of_not_reaches _ (Roster.nodup_keys_gather payer ixs) [] tables
    fun hall => (Roster.reaches_iff payer ixs tables).mp hall h
  rw [Roster.beyond_nil] at hfail
  rw [compile, hfail]
  rfl

/-- Extraction gets through if all keys are within reach. -/
theorem extractAll_gather (h : ¬ OutOfReach payer ixs tables) :
    (Roster.gather payer ixs).extractAll tables
      = .ok ((Roster.gather payer ixs).handOvers [] tables,
        (Roster.gather payer ixs).beyond tables) := by
  have hall := Roster.extractAll_of_reaches _ (Roster.nodup_keys_gather payer ixs) [] tables
    ((Roster.reaches_iff payer ixs tables).mpr h)
  rwa [Roster.beyond_nil] at hall

/-- It fails when it lays out the remaining keys if they or the signers are too
    many. -/
theorem compile_of_crowded (h : ¬ OutOfReach payer ixs tables)
    (hcrowded : 256 < (remainingKeys payer ixs tables).card ∨
      255 < (signingKeys payer ixs).card) :
    compile payer ixs tables = .error .tooManyKeys := by
  rw [← Roster.length_beyond, ← Roster.signerCount_beyond payer ixs tables] at hcrowded
  have hlayout := Roster.layout_of_crowded _
    (Roster.payerFirst_beyond _ tables (Roster.payerFirst_gather payer ixs)) hcrowded
  simp only [compile, extractAll_gather payer ixs tables h, bind, Except.bind, hlayout]

/-- It fails when it looks for places if the mentioned keys are too many, and
    otherwise it succeeds. -/
theorem compile_of_room (h : ¬ OutOfReach payer ixs tables)
    (hremaining : (remainingKeys payer ixs tables).card ≤ 256)
    (hsigning : (signingKeys payer ixs).card ≤ 255) :
    compile payer ixs tables =
      ((Roster.gather payer ixs).space tables).indexAll ixs >>= fun instructions =>
        .ok ⟨((Roster.gather payer ixs).beyond tables).headerOf,
          ((Roster.gather payer ixs).beyond tables).carriedKeys, instructions,
          ((Roster.gather payer ixs).handOvers [] tables).map (·.lookup)⟩ := by
  rw [← Roster.length_beyond] at hremaining
  rw [← Roster.signerCount_beyond payer ixs tables] at hsigning
  have hlayout := Roster.layout_of_room _
    (Roster.payerFirst_beyond _ tables (Roster.payerFirst_gather payer ixs)) hremaining hsigning
  simp only [compile, extractAll_gather payer ixs tables h, bind, Except.bind, hlayout]
  rfl

/-- Compiling fails when it looks for places, if too many keys are mentioned. -/
theorem compile_of_full (h : ¬ OutOfReach payer ixs tables)
    (hremaining : (remainingKeys payer ixs tables).card ≤ 256)
    (hsigning : (signingKeys payer ixs).card ≤ 255)
    (hfull : 256 < (mentionedKeys payer ixs).card) :
    compile payer ixs tables = .error .indexOverflow := by
  rw [← Roster.length_space payer ixs tables] at hfull
  rw [compile_of_room payer ixs tables h hremaining hsigning,
    KeySpace.indexAll_of_full _ ixs hfull, Outcome.error_bind]

/-- A compilation ends in one of four ways, and the limits are checked in this
    order. -/
theorem compile_cases :
    (OutOfReach payer ixs tables ∧ compile payer ixs tables = .error .lookupOverflow) ∨
      (¬ OutOfReach payer ixs tables ∧
        (256 < (remainingKeys payer ixs tables).card ∨ 255 < (signingKeys payer ixs).card) ∧
        compile payer ixs tables = .error .tooManyKeys) ∨
      (¬ OutOfReach payer ixs tables ∧ (remainingKeys payer ixs tables).card ≤ 256 ∧
        (signingKeys payer ixs).card ≤ 255 ∧ 256 < (mentionedKeys payer ixs).card ∧
        compile payer ixs tables = .error .indexOverflow) ∨
      (¬ OutOfReach payer ixs tables ∧ (remainingKeys payer ixs tables).card ≤ 256 ∧
        (signingKeys payer ixs).card ≤ 255 ∧ (mentionedKeys payer ixs).card ≤ 256 ∧
        ∃ m, compile payer ixs tables = .ok m) := by
  by_cases hreach : OutOfReach payer ixs tables
  · exact .inl ⟨hreach, compile_of_outOfReach payer ixs tables hreach⟩
  by_cases hcrowded : 256 < (remainingKeys payer ixs tables).card ∨
      255 < (signingKeys payer ixs).card
  · exact .inr (.inl ⟨hreach, hcrowded, compile_of_crowded payer ixs tables hreach hcrowded⟩)
  have hremaining : (remainingKeys payer ixs tables).card ≤ 256 := by omega
  have hsigning : (signingKeys payer ixs).card ≤ 255 := by omega
  by_cases hfull : 256 < (mentionedKeys payer ixs).card
  · have hcompile := compile_of_full payer ixs tables hreach hremaining hsigning hfull
    exact .inr (.inr (.inl ⟨hreach, hremaining, hsigning, hfull, hcompile⟩))
  · -- Every key that an instruction mentions is at some place.
    have hkeys : ∀ ix ∈ ixs, ∀ ref ∈ ix.references,
        ref.key ∈ ((Roster.gather payer ixs).space tables).toList := by
      intro ix hix ref href
      rw [(Roster.perm_space _ tables).mem_iff, Roster.mem_keys_gather]
      exact mem_mentionedKeys_of_references payer ixs ix hix ref href
    have hroom : ((Roster.gather payer ixs).space tables).length ≤ KeySpace.capacity := by
      rw [Roster.length_space]
      exact Nat.le_of_not_lt hfull
    have hcompile := compile_of_room payer ixs tables hreach hremaining hsigning
    rcases KeySpace.indexAll_of_room _ ixs hroom hkeys with ⟨compiled, hcompiled⟩
    rw [hcompiled] at hcompile
    exact .inr (.inr (.inr ⟨hreach, hremaining, hsigning, Nat.le_of_not_lt hfull, _, hcompile⟩))

/-- What compiles without tables has few enough keys and signers. -/
theorem few_of_compile_nil (h : ∃ m, compile payer ixs [] = .ok m) :
    (signingKeys payer ixs).card ≤ 255 ∧ (mentionedKeys payer ixs).card ≤ 256 := by
  have hok := (Outcome.isOk_iff _).mp h
  rcases compile_cases payer ixs [] with
    ⟨_, hc⟩ | ⟨_, _, hc⟩ | ⟨_, _, _, _, hc⟩ | ⟨_, _, hsigning, hmentioned, _⟩
  · exact absurd hc (hok _)
  · exact absurd hc (hok _)
  · exact absurd hc (hok _)
  · exact ⟨hsigning, hmentioned⟩

/-- What compiles without tables can fail with them, but only by a key that is out of
    reach. -/
theorem compile_error_of_compile_nil (h : ∃ m, compile payer ixs [] = .ok m) (e : MessageError)
    (he : compile payer ixs tables = .error e) : e = .lookupOverflow := by
  have hfew := few_of_compile_nil payer ixs h
  -- Tables only lower the number of keys that remain.
  have hremaining : (remainingKeys payer ixs tables).card ≤ (mentionedKeys payer ixs).card :=
    Finset.card_filter_le _ _
  rcases compile_cases payer ixs tables with
    ⟨_, hc⟩ | ⟨_, hcrowded, _⟩ | ⟨_, _, _, hfull, _⟩ | ⟨_, _, _, _, hc⟩
  · exact Outcome.error_unique _ _ hc e he
  · omega
  · omega
  · exact absurd he ((Outcome.isOk_iff _).mp hc e)

/-- When a compilation ends in which way. It reports an overflow of table entries if
    some key is out of reach; otherwise too many keys, if more than 256 keys remain
    to be carried or more than 255 sign; otherwise an overflow of places, if more
    than 256 keys are mentioned; and otherwise it succeeds. It reports nothing else,
    so there is always a writable signer, the payer is the first one, and no key is
    unknown. Tables never spoil a compilation that succeeds without them, but by a
    key that is out of reach. -/
theorem compile_outcome :
    (compile payer ixs tables = .error .lookupOverflow ↔ OutOfReach payer ixs tables) ∧
      (compile payer ixs tables = .error .tooManyKeys ↔ ¬ OutOfReach payer ixs tables ∧
        (256 < (remainingKeys payer ixs tables).card ∨ 255 < (signingKeys payer ixs).card)) ∧
      (compile payer ixs tables = .error .indexOverflow ↔ ¬ OutOfReach payer ixs tables ∧
        ¬ (256 < (remainingKeys payer ixs tables).card ∨ 255 < (signingKeys payer ixs).card) ∧
        256 < (mentionedKeys payer ixs).card) ∧
      ((∃ m, compile payer ixs tables = .ok m) ↔ ¬ OutOfReach payer ixs tables ∧
        ¬ (256 < (remainingKeys payer ixs tables).card ∨ 255 < (signingKeys payer ixs).card) ∧
        ¬ 256 < (mentionedKeys payer ixs).card) ∧
      (∀ e, compile payer ixs tables = .error e →
        e = .lookupOverflow ∨ e = .tooManyKeys ∨ e = .indexOverflow) ∧
      ((∃ m, compile payer ixs [] = .ok m) →
        ∀ e, compile payer ixs tables = .error e → e = .lookupOverflow) := by
  have htables := compile_error_of_compile_nil payer ixs tables
  rcases compile_cases payer ixs tables with ⟨hout, hc⟩ | ⟨hreach, hcrowded, hc⟩ |
    ⟨hreach, hremaining, hsigning, hfull, hc⟩ | ⟨hreach, hremaining, hsigning, hmentioned, m, hc⟩
  · -- Some key is out of reach, which all other endings rule out.
    have honly := Outcome.error_unique _ _ hc
    exact ⟨iff_of_true hc hout, iff_of_false (fun h => nomatch honly _ h) fun h => h.1 hout,
      iff_of_false (fun h => nomatch honly _ h) fun h => h.1 hout,
      iff_of_false (fun h => (Outcome.isOk_iff _).mp h _ hc) fun h => h.1 hout,
      fun e h => .inl (honly e h), htables⟩
  · -- Too many keys remain or sign.
    have honly := Outcome.error_unique _ _ hc
    exact ⟨iff_of_false (fun h => nomatch honly _ h) hreach, iff_of_true hc ⟨hreach, hcrowded⟩,
      iff_of_false (fun h => nomatch honly _ h) fun h => h.2.1 hcrowded,
      iff_of_false (fun h => (Outcome.isOk_iff _).mp h _ hc) fun h => h.2.1 hcrowded,
      fun e h => .inr (.inl (honly e h)), htables⟩
  · -- There is room for those, but too many keys are mentioned.
    have hroom : ¬ (256 < (remainingKeys payer ixs tables).card ∨
        255 < (signingKeys payer ixs).card) := by omega
    have honly := Outcome.error_unique _ _ hc
    exact ⟨iff_of_false (fun h => nomatch honly _ h) hreach,
      iff_of_false (fun h => nomatch honly _ h) fun h => hroom h.2,
      iff_of_true hc ⟨hreach, hroom, hfull⟩,
      iff_of_false (fun h => (Outcome.isOk_iff _).mp h _ hc) fun h => h.2.2 hfull,
      fun e h => .inr (.inr (honly e h)), htables⟩
  · -- There is room for all of them.
    have hroom : ¬ (256 < (remainingKeys payer ixs tables).card ∨
        255 < (signingKeys payer ixs).card) := by omega
    have hnone := (Outcome.isOk_iff _).mp ⟨m, hc⟩
    exact ⟨iff_of_false (hnone _) hreach, iff_of_false (hnone _) fun h => hroom h.2,
      iff_of_false (hnone _) fun h => Nat.not_lt.mpr hmentioned h.2.2,
      iff_of_true ⟨m, hc⟩ ⟨hreach, hroom, Nat.not_lt.mpr hmentioned⟩,
      fun e h => absurd h (hnone e), htables⟩

end WalletMessage

end Cosigner
