import Cosigner.Proofs.Message.WellFormed

/-!
# The Order of Instructions

Instructions in another order, or with their accounts in another order, compile to
another message. How much of the message changes is not plain from how it is made:
the roster is filled in the order of mention, and everything after that works on the
roster. A role that depended on who was mentioned first, or a table that failed on
the first key out of reach and not on any, would show for some orders only.

Only positions change. The mentions of keys are the same, in another order, so the
rosters have the same entries in another order. What tables leave behind, what they
take over and the groups of a layout are parts of a roster that are picked out entry
by entry, so they are the same parts in another order, and their sizes are the same.
A compilation fails because some set of keys is too large or some key is out of reach,
and neither has an order. So both lists of instructions compile or fail alike.

## Main definitions

* `Instruction.Shuffles`: An instruction with its accounts in another order.
* `Rearranged`: Instructions in another order, and their accounts as well.
* `WalletMessage.carriedWith`: The carried keys with one role.
* `TableLookup.SameEntries`: A lookup with its indexes in another order.
* `WalletMessage.SameParts`: A message that differs in positions only.

## Theorems

* `Rearranged.references_perm`: The mentions are the same, in another order.
* `Roster.perm_gather`: The rosters have the same entries.
* `WalletMessage.perm_carriedWith`: The keys of one role are a group of the roster.
* `WalletMessage.compile_error_of_perm`: Compilations fail alike.
* `WalletMessage.compile_rearranged`: Compilations come out alike.
-/

namespace Cosigner

/-- An instruction with its accounts in another order. -/
structure Instruction.Shuffles (ix ix' : Instruction) : Prop where
  program : ix'.program = ix.program
  data : ix'.data = ix.data
  accounts : ix'.accounts.Perm ix.accounts

/-- Instructions in another order, with the accounts of each in another order. -/
def Rearranged (ixs ixs' : List Instruction) : Prop :=
  ∃ moved, ixs.Perm moved ∧ List.Forall₂ Instruction.Shuffles moved ixs'

/-- A lookup of the same entries of a table, in another order. -/
structure TableLookup.SameEntries (l l' : TableLookup) : Prop where
  table : l'.table = l.table
  writable : l'.writable.Perm l.writable
  readonly : l'.readonly.Perm l.readonly

namespace WalletMessage

/-- The carried keys that the header gives a role, in the order of their places. -/
def carriedWith (m : WalletMessage) (role : Role) : List Address :=
  (m.keys.zipIdx.filter fun e => m.header.role e.2 = role).map (·.1)

/-- A message with the same parts, where only positions differ. Nothing is said of its
    instructions. -/
structure SameParts (m m' : WalletMessage) : Prop where
  -- The header has the same counts.
  header : m'.header = m.header
  -- Each group has the same keys.
  groups : ∀ role, (m'.carriedWith role).Perm (m.carriedWith role)
  -- The same tables are looked up, in the same order, each for the same entries.
  lookups : List.Forall₂ TableLookup.SameEntries m.lookups m'.lookups

end WalletMessage

/-- Rearranging moves the mentions of keys around and changes none of them. -/
theorem Rearranged.references_perm (payer : Address) (ixs ixs' : List Instruction)
    (h : Rearranged ixs ixs') : (references payer ixs).Perm (references payer ixs') := by
  rcases h with ⟨moved, hmoved, hshuffled⟩
  have hrefs : List.Forall₂ List.Perm (moved.map Instruction.references)
      (ixs'.map Instruction.references) := by
    rw [List.forall₂_map_left_iff, List.forall₂_map_right_iff]
    refine hshuffled.imp fun ix ix' hix => ?_
    unfold Instruction.references
    rw [hix.program]
    exact hix.accounts.symm.cons _
  unfold references
  exact ((hmoved.flatMap_right _).trans (List.Perm.flatten_congr hrefs)).cons _

-- Pooling asks whether some mention has a flag, which has no order.
theorem pooled_perm (ms ms' : List AccountRef) (h : ms.Perm ms') : pooled ms = pooled ms' := by
  funext key
  have hany : ∀ flag : Role → Bool, (ms.any fun r => r.key = key && flag r.role)
      = ms'.any fun r => r.key = key && flag r.role := by
    intro flag
    rw [Bool.eq_iff_iff, List.any_eq_true, List.any_eq_true]
    simp only [h.mem_iff]
  unfold pooled
  rw [hany Role.signer, hany Role.writable]

section Mentions

variable (payer : Address) (ixs ixs' : List Instruction)
  (h : (references payer ixs).Perm (references payer ixs'))

include h

-- Everything that is known of a key depends on its mentions, in whatever order they
-- are.
theorem mergedRole_of_perm : mergedRole payer ixs = mergedRole payer ixs' := by
  funext key
  rw [← pooled_references, ← pooled_references, pooled_perm _ _ h]

theorem asksFor_signer_of_perm (key : Address) :
    asksFor payer ixs Role.signer key = asksFor payer ixs' Role.signer key :=
  congrArg Role.signer (congrFun (mergedRole_of_perm payer ixs ixs' h) key)

theorem mentionedKeys_of_perm : mentionedKeys payer ixs = mentionedKeys payer ixs' := by
  ext key
  rw [mem_mentionedKeys, mem_mentionedKeys]
  exact (h.map (·.key)).mem_iff

theorem signingKeys_of_perm : signingKeys payer ixs = signingKeys payer ixs' := by
  unfold signingKeys
  simp only [mentionedKeys_of_perm payer ixs ixs' h, asksFor_signer_of_perm payer ixs ixs' h]

-- What is left after the tables, and what no table can reach, is known of the keys,
-- too.
theorem remainingKeys_of_perm (tables : List LookupTable) :
    remainingKeys payer ixs tables = remainingKeys payer ixs' tables := by
  unfold remainingKeys
  simp only [mentionedKeys_of_perm payer ixs ixs' h, asksFor_signer_of_perm payer ixs ixs' h]

theorem outOfReach_of_perm (tables : List LookupTable) :
    OutOfReach payer ixs tables ↔ OutOfReach payer ixs' tables := by
  unfold OutOfReach
  simp only [mentionedKeys_of_perm payer ixs ixs' h, asksFor_signer_of_perm payer ixs ixs' h]

/-- The gathered rosters have the same entries. -/
theorem Roster.perm_gather : (gather payer ixs).entries.Perm (gather payer ixs').entries := by
  have hnodup : ∀ ixs, (gather payer ixs).entries.Nodup :=
    fun ixs => List.Nodup.of_map _ (nodup_keys_gather payer ixs)
  rw [List.perm_ext_iff_of_nodup (hnodup ixs) (hnodup ixs')]
  intro e
  rw [mem_gather, mem_gather, mentionedKeys_of_perm payer ixs ixs' h,
    mergedRole_of_perm payer ixs ixs' h]

end Mentions

namespace Roster

section Perm

variable (r r' : Roster) (h : r.entries.Perm r'.entries)

include h

-- From here on rosters are compared that have the same entries in different orders.
theorem beyond_perm (tables : List LookupTable) :
    (r.beyond tables).entries.Perm (r'.beyond tables).entries := by
  unfold beyond
  exact h.filter _

theorem group_perm (role : Role) : (r.group role).Perm (r'.group role) := by
  unfold group
  exact (h.filter _).map _

theorem share_perm (t : LookupTable) (writable : Bool) :
    (r.share t writable).Perm (r'.share t writable) := by
  unfold share
  exact (h.filter _).map _

/-- Headers count entries, so they are the same. -/
theorem headerOf_perm : r.headerOf = r'.headerOf := by
  unfold headerOf
  rw [(group_perm r r' h ⟨true, true⟩).length_eq, (group_perm r r' h ⟨true, false⟩).length_eq,
    (group_perm r r' h ⟨false, true⟩).length_eq]

-- A share is empty for both rosters or for none, so the same turns hand something over.
theorem activeTurns_perm (tables : List LookupTable) :
    r.activeTurns tables = r'.activeTurns tables := by
  have hempty : ∀ turn : List LookupTable × LookupTable, ∀ writable,
      (r.beyond turn.1).share turn.2 writable = [] ↔
        (r'.beyond turn.1).share turn.2 writable = [] := by
    intro turn writable
    have hshare := share_perm _ _ (beyond_perm r r' h turn.1) turn.2 writable
    rw [← List.length_eq_zero_iff, ← List.length_eq_zero_iff, hshare.length_eq]
  unfold activeTurns
  refine List.filter_congr fun turn _ => ?_
  simp only [hempty]

/-- Every table takes the same keys, and at most their order differs. -/
theorem forall₂_handOvers (tables : List LookupTable) :
    List.Forall₂ TableLookup.SameEntries ((r.handOvers [] tables).map (·.lookup))
      ((r'.handOvers [] tables).map (·.lookup)) := by
  rw [handOvers_eq_map, handOvers_eq_map, activeTurns_perm r r' h, List.map_map, List.map_map,
    List.forall₂_map_left_iff, List.forall₂_map_right_iff, List.forall₂_same]
  intro turn _
  have hshare := share_perm _ _ (beyond_perm r r' h turn.1).symm turn.2
  exact ⟨rfl, (hshare true).map _, (hshare false).map _⟩

end Perm

end Roster

namespace WalletMessage

-- A key is carried with the role of its place.
theorem mem_carriedWith (m : WalletMessage) (role : Role) (key : Address) :
    key ∈ m.carriedWith role ↔
      ∃ place, m.keys[place]? = some key ∧ m.header.role place = role := by
  unfold carriedWith
  simp only [List.mem_map, List.mem_filter, decide_eq_true_eq, List.mem_zipIdx_iff_getElem?]
  constructor
  · intro hmem
    rcases hmem with ⟨⟨found, place⟩, ⟨hkey, hrole⟩, rfl⟩
    exact ⟨place, hkey, hrole⟩
  · intro hplace
    rcases hplace with ⟨place, hkey, hrole⟩
    exact ⟨(key, place), ⟨hkey, hrole⟩, rfl⟩

-- The keys of one role are some of the carried ones, in the same order.
theorem carriedWith_sublist (m : WalletMessage) (role : Role) :
    (m.carriedWith role).Sublist m.keys := by
  have hsub := (List.filter_sublist (l := m.keys.zipIdx)
    (p := fun e => m.header.role e.2 = role)).map (·.1)
  rw [List.zipIdx_map_fst] at hsub
  exact hsub

section Compiled

variable (payer : Address) (ixs : List Instruction) (tables : List LookupTable)

/-- The header and the carried keys of a compiled message are a layout of the roster. -/
theorem layout_of_compile (m : WalletMessage) (h : compile payer ixs tables = .ok m) :
    ((Roster.gather payer ixs).beyond tables).layout = .ok (m.header, m.keys) := by
  rcases parts_of_compile payer ixs tables m h with
    ⟨_, hremaining, hsigning, _, hheader, hkeys, _, _⟩
  rw [← Roster.length_beyond] at hremaining
  rw [← Roster.signerCount_beyond payer ixs tables] at hsigning
  rw [hheader, hkeys]
  exact Roster.layout_of_room _
    (Roster.payerFirst_beyond _ tables (Roster.payerFirst_gather payer ixs)) hremaining hsigning

/-- The keys that the header gives a role are the group of the role. -/
theorem perm_carriedWith (m : WalletMessage) (h : compile payer ixs tables = .ok m)
    (role : Role) :
    (m.carriedWith role).Perm (((Roster.gather payer ixs).beyond tables).group role) := by
  have hlayout := layout_of_compile payer ixs tables m h
  have hnodup := Roster.nodup_keys_beyond _ tables (Roster.nodup_keys_gather payer ixs)
  have hperm : m.keys.Perm ((Roster.gather payer ixs).beyond tables).keys := by
    rw [(Roster.layout_eq_ok _ _ _ hlayout).2.2.2.2.2]
    exact Roster.perm_carriedKeys _
  have hcarried := (hperm.nodup_iff.mpr hnodup).sublist (m.carriedWith_sublist role)
  have hgroup : (((Roster.gather payer ixs).beyond tables).group role).Nodup :=
    hnodup.sublist (List.filter_sublist.map _)
  rw [List.perm_ext_iff_of_nodup hcarried hgroup]
  intro key
  rw [mem_carriedWith, Roster.mem_group]
  constructor
  · intro hplace
    rcases hplace with ⟨place, hkey, rfl⟩
    exact Roster.layout_role _ _ _ hlayout place key hkey
  · intro hentry
    have hkey : key ∈ m.keys := by
      rw [hperm.mem_iff]
      exact List.mem_map_of_mem (f := (·.key)) hentry
    rcases List.mem_iff_getElem?.mp hkey with ⟨place, hplace⟩
    -- A key has one entry, so the role of its place is the role that is asked for.
    have hother := Roster.layout_role _ _ _ hlayout place key hplace
    have hsame := List.inj_on_of_nodup_map hnodup hother hentry rfl
    rw [AccountRef.mk.injEq] at hsame
    exact ⟨place, hplace, hsame.2⟩

end Compiled

section Mentions

variable (payer : Address) (ixs ixs' : List Instruction)
  (h : (references payer ixs).Perm (references payer ixs')) (tables : List LookupTable)

include h

/-- A compilation fails on the same mentions in any order, with the same error. -/
theorem compile_error_of_perm (e : MessageError) (hfail : compile payer ixs tables = .error e) :
    compile payer ixs' tables = .error e := by
  have hreach := outOfReach_of_perm payer ixs ixs' h tables
  have hremaining := remainingKeys_of_perm payer ixs ixs' h tables
  have hsigning := signingKeys_of_perm payer ixs ixs' h
  have hmentioned := mentionedKeys_of_perm payer ixs ixs' h
  rcases compile_cases payer ixs tables with ⟨hout, hc⟩ | ⟨hin, hcrowded, hc⟩ |
    ⟨hin, hfew, hsigners, hfull, hc⟩ | ⟨_, _, _, _, m, hc⟩
  · rw [← hfail, hc]
    exact compile_of_outOfReach payer ixs' tables (hreach.mp hout)
  · rw [hremaining, hsigning] at hcrowded
    rw [← hfail, hc]
    exact compile_of_crowded payer ixs' tables (fun hout => hin (hreach.mpr hout)) hcrowded
  · rw [hremaining] at hfew
    rw [hsigning] at hsigners
    rw [hmentioned] at hfull
    rw [← hfail, hc]
    exact compile_of_full payer ixs' tables (fun hout => hin (hreach.mpr hout)) hfew hsigners hfull
  · rw [hc] at hfail
    exact absurd hfail (by simp only [reduceCtorEq, not_false_eq_true])

/-- Messages compiled from the same mentions in any order have the same parts. -/
theorem sameParts_of_perm (m m' : WalletMessage) (hm : compile payer ixs tables = .ok m)
    (hm' : compile payer ixs' tables = .ok m') : m.SameParts m' := by
  have hentries := Roster.perm_gather payer ixs ixs' h
  have hleft := Roster.beyond_perm _ _ hentries tables
  rcases parts_of_compile payer ixs tables m hm with ⟨_, _, _, _, hheader, _, _, hlookups⟩
  rcases parts_of_compile payer ixs' tables m' hm' with ⟨_, _, _, _, hheader', _, _, hlookups'⟩
  refine ⟨?_, fun role => ?_, ?_⟩
  · rw [hheader, hheader', Roster.headerOf_perm _ _ hleft]
  · have hgroup := Roster.group_perm _ _ hleft role
    exact ((perm_carriedWith payer ixs' tables m' hm' role).trans hgroup.symm).trans
      (perm_carriedWith payer ixs tables m hm role).symm
  · rw [hlookups, hlookups']
    exact Roster.forall₂_handOvers _ _ hentries tables

end Mentions

/-- Instructions in another order, with their accounts in another order, fail to compile
    with the same error, or compile to a message with the same parts. -/
theorem compile_rearranged (payer : Address) (ixs ixs' : List Instruction)
    (tables : List LookupTable) (h : Rearranged ixs ixs') :
    (∃ e, compile payer ixs tables = .error e ∧ compile payer ixs' tables = .error e) ∨
      ∃ m m', compile payer ixs tables = .ok m ∧ compile payer ixs' tables = .ok m' ∧
        m.SameParts m' := by
  have hrefs := h.references_perm payer ixs ixs'
  cases hm : compile payer ixs tables with
  | error e => exact .inl ⟨e, rfl, compile_error_of_perm payer ixs ixs' hrefs tables e hm⟩
  | ok m =>
      cases hm' : compile payer ixs' tables with
      | error e =>
          -- Then the first order would have failed as well.
          have hfail := compile_error_of_perm payer ixs' ixs hrefs.symm tables e hm'
          rw [hm] at hfail
          exact absurd hfail (by simp only [reduceCtorEq, not_false_eq_true])
      | ok m' =>
          exact .inr ⟨m, m', rfl, rfl, sameParts_of_perm payer ixs ixs' hrefs tables m m' hm hm'⟩

/-- Two instructions change places, and the accounts of one are reversed. Both tables take
    over two keys. -/
theorem compile_rearranged_swapped :
    let key (n : UInt8) : Address := Octets.replicate 32 n
    let first : Instruction := ⟨key 9, [⟨key 2, ⟨true, false⟩⟩, ⟨key 3, ⟨false, true⟩⟩,
      ⟨key 4, .plain⟩], [7]⟩
    let second : Instruction := ⟨key 8, [⟨key 5, ⟨false, true⟩⟩, ⟨key 2, ⟨false, true⟩⟩,
      ⟨key 6, ⟨true, true⟩⟩], []⟩
    let backwards : Instruction := { first with accounts := first.accounts.reverse }
    let tables : List LookupTable := [⟨key 20, [key 4, key 3, key 5]⟩, ⟨key 21, [key 8, key 9]⟩]
    let m : WalletMessage := {
      header := ⟨3, 3, 0⟩
      keys := [key 1, key 2, key 6]
      instructions := [⟨6, [1, 3, 5], [7]⟩, ⟨7, [4, 1, 2], []⟩]
      lookups := [⟨key 20, [1, 2], [0]⟩, ⟨key 21, [], [1, 0]⟩] }
    let m' : WalletMessage := {
      header := ⟨3, 3, 0⟩
      keys := [key 1, key 2, key 6]
      instructions := [⟨6, [3, 1, 2], []⟩, ⟨7, [5, 4, 1], [7]⟩]
      lookups := [⟨key 20, [2, 1], [0]⟩, ⟨key 21, [], [0, 1]⟩] }
    compile (key 1) [first, second] tables = .ok m ∧
      compile (key 1) [second, backwards] tables = .ok m' ∧ m.SameParts m' := by
  intro key first second backwards tables m m'
  have hm : compile (key 1) [first, second] tables = .ok m := by decide +kernel
  have hm' : compile (key 1) [second, backwards] tables = .ok m' := by decide +kernel
  have hmoved : Rearranged [first, second] [second, backwards] := by
    refine ⟨[second, first], .swap _ _ _, ?_⟩
    exact .cons ⟨rfl, rfl, .refl _⟩ (.cons ⟨rfl, rfl, List.reverse_perm _⟩ .nil)
  rcases compile_rearranged (key 1) [first, second] [second, backwards] tables hmoved with
    ⟨e, hfail, _⟩ | ⟨m₀, m₀', hm₀, hm₀', hparts⟩
  · rw [hm] at hfail
    exact absurd hfail (by simp only [reduceCtorEq, not_false_eq_true])
  · rw [hm, Except.ok.injEq] at hm₀
    rw [hm', Except.ok.injEq] at hm₀'
    rw [← hm₀, ← hm₀'] at hparts
    exact ⟨hm, hm', hparts⟩

end WalletMessage

end Cosigner
