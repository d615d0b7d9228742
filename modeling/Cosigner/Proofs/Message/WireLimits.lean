import Cosigner.Proofs.Message.WellFormed
import Cosigner.Proofs.Message.Wire

/-!
# Which Compiled Messages Can Be Written

A compilation and the wire form have limits of their own, and they do not agree.
A message has 256 places, since a place is named by a byte, but the wire form
counts the carried keys in a byte and so ends at 255. The compiler does not look
at the number of instructions, of their accounts or at the size of their data at
all. So there are messages that compile and cannot be written, and this module
says which.

The limits on lookups never matter. The payer is carried, so at most 255 of the
256 places are left for loaded keys. A lookup loads at least one key, and
different lookups load different keys, so neither their number nor the number of
entries of one of them can exceed what a byte counts.

## Theorems

* `TableLookup.length_le_of_loads`: Lookups are counted by the keys they load.
* `KeySpace.length_eq_of_indexAll`: Indexing keeps the sizes of instructions.
* `WalletMessage.loaded_le_of_compile`: At most 255 keys are loaded.
* `WalletMessage.lookups_le_of_compile`: Lookups are within their limits.
* `WalletMessage.fits_iff_of_compile`: Which compiled messages fit.
* `WalletMessage.encode_compile`: Which compiled messages are written.
-/

namespace Cosigner

theorem LoadedKeys.length_concat_cons (part : LoadedKeys) (rest : List LoadedKeys) :
    (concat (part :: rest)).length = part.length + (concat rest).length := by
  simp only [concat, length, List.flatMap_cons, List.length_append]
  omega

namespace TableLookup

/-- A lookup has as many places as keys that it loads. -/
theorem Loads.length_eq {l : TableLookup} {loading : Loading} (h : l.Loads loading) :
    l.writable.length + l.readonly.length = loading.keys.length := by
  rw [LoadedKeys.length, h.writable.length_eq, h.readonly.length_eq]

/-- A lookup loads one key at least, since none is empty. -/
theorem Loads.one_le_length {l : TableLookup} {loading : Loading} (h : l.Loads loading) :
    1 ≤ loading.keys.length := by
  have hlength := h.length_eq
  rcases h.nonempty with hsome | hsome
  · have hpos := List.length_pos_iff.mpr hsome
    omega
  · have hpos := List.length_pos_iff.mpr hsome
    omega

-- No lookup is empty, so there are at most as many as keys that they load; and
-- no single one has more entries than all of them together.
theorem length_le_of_loads (lookups : List TableLookup) (loadings : List Loading)
    (h : List.Forall₂ Loads lookups loadings) :
    lookups.length ≤ (LoadedKeys.concat (loadings.map (·.keys))).length ∧
      ∀ l ∈ lookups, l.writable.length + l.readonly.length
        ≤ (LoadedKeys.concat (loadings.map (·.keys))).length := by
  induction h with
  | nil => exact ⟨Nat.zero_le _, List.forall_mem_nil _⟩
  | @cons l loading lookups loadings hl _ ih =>
      have hown := hl.length_eq
      have hone := hl.one_le_length
      rcases ih with ⟨hcount, hentries⟩
      rw [List.map_cons, LoadedKeys.length_concat_cons, List.length_cons, List.forall_mem_cons]
      refine ⟨by omega, by omega, ?_⟩
      intro l' hl'
      have hother := hentries l' hl'
      omega

end TableLookup

-- An index takes the place of every account, and data is copied.
theorem KeySpace.length_eq_of_indexAll (s : KeySpace) (ixs : List Instruction)
    (compiled : List IndexedInstruction) (h : s.indexAll ixs = .ok compiled) :
    List.Forall₂ (fun ix c => c.accounts.length = ix.accounts.length ∧ c.data = ix.data) ixs
      compiled := by
  rw [indexAll, Outcome.ite_error_eq_ok, Outcome.mapM_eq_ok] at h
  refine h.2.imp fun ix c hindex => ?_
  rcases (s.index_eq_ok ix c).mp hindex with ⟨_, haccounts, hdata⟩
  exact ⟨haccounts.length_eq.symm, hdata⟩

namespace WalletMessage

variable (payer : Address) (ixs : List Instruction) (tables : List LookupTable)

/-- What compiles loads fewer keys than there are places, as the payer is carried. -/
theorem loaded_le_of_compile (m : WalletMessage) (h : compile payer ixs tables = .ok m) :
    (LoadedKeys.concat ((loadings payer ixs tables).map (·.keys))).length ≤ 255 := by
  rcases parts_of_compile payer ixs tables m h with ⟨_, _, _, hmentioned, _, hkeys, _, _⟩
  have hspace := congrArg KeySpace.length (space_loadings payer ixs tables m hkeys)
  rw [Roster.length_space, space, KeySpace.length] at hspace
  -- The payer takes one of the places.
  have hpayer := Roster.payerFirst_beyond _ tables (Roster.payerFirst_gather payer ixs)
  have hone : 1 ≤ m.keys.length := by
    rcases List.head?_eq_some_iff.mp hpayer.head?_carriedKeys with ⟨rest, hcarried⟩
    rw [hkeys, hcarried, List.length_cons]
    exact Nat.le_add_left 1 _
  simp only at hspace
  omega

-- The carried keys of what compiles are the remaining ones.
theorem length_keys_of_compile (m : WalletMessage) (h : compile payer ixs tables = .ok m) :
    m.keys.length = (remainingKeys payer ixs tables).card := by
  rcases parts_of_compile payer ixs tables m h with ⟨_, _, _, _, _, hkeys, _, _⟩
  have hmoved := (Roster.perm_carriedKeys ((Roster.gather payer ixs).beyond tables)).length_eq
  rw [hkeys, hmoved, ← Roster.length_beyond]
  exact List.length_map _

/-- What compiles keeps all limits of lookups, since every place in them stands for a key
    of its own. -/
theorem lookups_le_of_compile (m : WalletMessage) (h : compile payer ixs tables = .ok m) :
    m.lookups.length ≤ 255 ∧
      ∀ l ∈ m.lookups, l.writable.length ≤ 255 ∧ l.readonly.length ≤ 255 := by
  have hloaded := loaded_le_of_compile payer ixs tables m h
  have hloads := forall₂_loads payer ixs tables m h
  rcases TableLookup.length_le_of_loads _ _ hloads with ⟨hcount, hentries⟩
  refine ⟨by omega, ?_⟩
  intro l hl
  have hown := hentries l hl
  exact ⟨by omega, by omega⟩

/-- Of the limits of the wire format, those of carried keys and of instructions are left.
    -/
theorem fits_iff_of_compile (m : WalletMessage) (h : compile payer ixs tables = .ok m) :
    m.Fits ↔ m.keys.length ≤ 255 ∧ ixs.length ≤ 255 ∧
      ∀ ix ∈ ixs, ix.accounts.length ≤ 255 ∧ ix.data.length ≤ 65535 := by
  rcases parts_of_compile payer ixs tables m h with ⟨_, _, _, _, _, _, hindex, _⟩
  have hsizes := KeySpace.length_eq_of_indexAll _ ixs m.instructions hindex
  rcases lookups_le_of_compile payer ixs tables m h with ⟨hcount, hentries⟩
  constructor
  · intro hfits
    refine ⟨hfits.keys, by rw [hsizes.length_eq]; exact hfits.instructionCount, ?_⟩
    intro ix hix
    rcases Outcome.mem_of_forall₂_right _ _ _ hsizes.flip ix hix with ⟨c, hc, haccounts, hdata⟩
    rw [← haccounts, ← hdata]
    exact ⟨(hfits.instructions c hc).accounts, (hfits.instructions c hc).data⟩
  · intro hlimits
    rcases hlimits with ⟨hkeys, hixs, hsmall⟩
    refine ⟨hkeys, by rw [← hsizes.length_eq]; exact hixs, hcount, ?_, ?_⟩
    · intro c hc
      rcases Outcome.mem_of_forall₂_right _ _ _ hsizes c hc with ⟨ix, hix, haccounts, hdata⟩
      have hown := hsmall ix hix
      rw [← haccounts, ← hdata] at hown
      exact ⟨hown.1, hown.2⟩
    · intro l hl
      exact ⟨(hentries l hl).1, (hentries l hl).2⟩

-- What is measured before writing, sorted by the kind of part.
theorem extent_cases (m : WalletMessage) (part : MessagePart) (size : Nat)
    (h : (part, size) ∈ m.extents) :
    (part = .keys ∨ part = .instructions ∨ part = .accountIndexes ∨ part = .instructionData) ∨
      (part = .lookups ∧ size = m.lookups.length) ∨
      ∃ l ∈ m.lookups, (part = .writableIndexes ∧ size = l.writable.length) ∨
        (part = .readonlyIndexes ∧ size = l.readonly.length) := by
  simp only [extents, List.cons_append, List.mem_cons, List.mem_append, List.mem_flatMap,
    Prod.mk.injEq, List.not_mem_nil, or_false] at h
  rcases h with ⟨hpart, _⟩ | ⟨hpart, _⟩ | ⟨ix, _, ⟨hpart, _⟩ | ⟨hpart, _⟩⟩ | hlookups | hentries
  · exact .inl (.inl hpart)
  · exact .inl (.inr (.inl hpart))
  · exact .inl (.inr (.inr (.inl hpart)))
  · exact .inl (.inr (.inr (.inr hpart)))
  · exact .inr (.inl hlookups)
  · exact .inr (.inr hentries)

/-- Writing fails with a part that is too large for its count, and with its size. -/
theorem encode_eq_error (m : WalletMessage) (e : MessageError) (h : m.encode = .error e) :
    ∃ part size, e = .oversized part size ∧ (part, size) ∈ m.extents ∧ part.limit < size := by
  unfold encode at h
  split at h
  · rename_i part size hfind
    have hlarge := List.find?_some hfind
    rw [decide_eq_true_iff] at hlarge
    rw [Except.error.injEq] at h
    exact ⟨part, size, h.symm, List.mem_of_find?_eq_some hfind, hlarge⟩
  · exact absurd h (by simp only [reduceCtorEq, not_false_eq_true])

/-- When a compiled message can be written: if it carries at most 255 keys, and the
    instructions that were compiled are at most 255, with at most 255 accounts and
    65535 bytes of data each. Its lookups are always within their limits and are
    never what writing complains about. What is written decodes to the message. -/
theorem encode_compile (m : WalletMessage) (h : compile payer ixs tables = .ok m) :
    ((∃ bs, m.encode = .ok bs) ↔ m.keys.length ≤ 255 ∧ ixs.length ≤ 255 ∧
        ∀ ix ∈ ixs, ix.accounts.length ≤ 255 ∧ ix.data.length ≤ 65535) ∧
      (m.lookups.length ≤ 255 ∧
        ∀ l ∈ m.lookups, l.writable.length ≤ 255 ∧ l.readonly.length ≤ 255) ∧
      (∀ e, m.encode = .error e → ∃ part size, e = .oversized part size ∧
        part.limit < size ∧ (part = .keys ∨ part = .instructions ∨ part = .accountIndexes ∨
          part = .instructionData)) ∧
      ∀ bs, m.encode = .ok bs → decode bs = .ok m := by
  have hlookups := lookups_le_of_compile payer ixs tables m h
  refine ⟨?_, hlookups, ?_, fun bs hbs => (m.encode_eq_ok_iff bs).mp hbs⟩
  · rw [← fits_iff_of_compile payer ixs tables m h]
    simp only [encode_eq_ok, exists_and_left, exists_eq, and_true]
  · intro e he
    rcases m.encode_eq_error e he with ⟨part, size, rfl, hmem, hlarge⟩
    refine ⟨part, size, rfl, hlarge, ?_⟩
    -- A lookup that is too large would break the limits shown above.
    rcases m.extent_cases part size hmem with hpart | ⟨rfl, rfl⟩ | ⟨l, hl, ⟨rfl, rfl⟩ | ⟨rfl, rfl⟩⟩
    · exact hpart
    · exact absurd hlookups.1 (Nat.not_le_of_lt hlarge)
    · exact absurd (hlookups.2 l hl).1 (Nat.not_le_of_lt hlarge)
    · exact absurd (hlookups.2 l hl).2 (Nat.not_le_of_lt hlarge)

/-- The one size at which the limits part: a payer, a program and 254 accounts fill
    all 256 places without a table. That compiles and cannot be written. -/
theorem encode_compile_full :
    let key (n : Nat) : Address := Octets.replicate 32 (UInt8.ofNat n)
    let ixs : List Instruction :=
      [⟨key 1, (List.range' 2 254).map fun n => ⟨key n, .plain⟩, [7]⟩]
    ∃ m, compile (key 0) ixs [] = .ok m ∧ m.keys.length = 256 ∧
      ¬ ∃ bs, m.encode = .ok bs := by
  intro key ixs
  have hinjective : ∀ a ∈ List.range' 0 256, ∀ b ∈ List.range' 0 256, key a = key b → a = b := by
    intro a ha b hb heq
    have hbyte : UInt8.ofNat a = UInt8.ofNat b := by
      have hbytes := congrArg Octets.toBytes heq
      exact (List.replicate_inj.mp hbytes).2.resolve_left (by decide)
    have hnat := congrArg UInt8.toNat hbyte
    rw [List.mem_range'_1] at ha hb
    have hasmall : a < 256 := by omega
    have hbsmall : b < 256 := by omega
    rwa [UInt8.toNat_ofNat_of_lt' hasmall, UInt8.toNat_ofNat_of_lt' hbsmall] at hnat
  have hmentioned : (mentionedKeys (key 0) ixs).card = 256 := by
    have hnodup := List.Nodup.map_on hinjective (List.nodup_range' (s := 0) (n := 256))
    have hkeys : mentionedKeys (key 0) ixs = ((List.range' 0 256).map key).toFinset := by
      simp only [mentionedKeys, ixs, List.flatMap_singleton, List.map_map]
      rfl
    rw [hkeys, List.toFinset_card_of_nodup hnodup, List.length_map, List.length_range']
  -- Nothing is in a table, so all of them remain.
  have hremaining : (remainingKeys (key 0) ixs []).card = 256 := by
    have hall : remainingKeys (key 0) ixs [] = mentionedKeys (key 0) ixs := by
      simp only [remainingKeys, LookupTable.Hold, List.not_mem_nil, false_and, exists_false,
        not_false_eq_true, or_true, Finset.filter_true]
    rw [hall, hmentioned]
  -- No account is a signer, so the payer is the only one.
  have hpayer : ∀ a ∈ signingKeys (key 0) ixs, a = key 0 := by
    intro a ha
    have hasked := (Finset.mem_filter.mp ha).2
    rw [asksFor, Bool.or_eq_true, decide_eq_true_iff] at hasked
    refine hasked.resolve_right fun hany => ?_
    rcases List.any_eq_true.mp hany with ⟨ix, hix, hany⟩
    rcases List.any_eq_true.mp hany with ⟨ref, href, hsigner⟩
    rw [List.mem_singleton.mp hix] at href
    rcases List.mem_map.mp href with ⟨byte, _, rfl⟩
    simp only [Role.plain, Bool.and_false, Bool.false_eq_true] at hsigner
  have hsigning : (signingKeys (key 0) ixs).card ≤ 1 :=
    Finset.card_le_one.mpr fun a ha b hb => (hpayer a ha).trans (hpayer b hb).symm
  rcases compile_cases (key 0) ixs [] with ⟨hout, _⟩ | ⟨_, hcrowded, _⟩ | ⟨_, _, _, hfull, _⟩ |
    ⟨_, _, _, _, m, hm⟩
  · rcases hout with ⟨before, t, after, htables, _⟩
    simp only [List.nil_eq, List.append_eq_nil_iff, reduceCtorEq, and_false] at htables
  · omega
  · omega
  · have hlength : m.keys.length = 256 := by
      rw [length_keys_of_compile (key 0) ixs [] m hm, hremaining]
    refine ⟨m, hm, hlength, fun hwritten => ?_⟩
    have hfew := ((encode_compile (key 0) ixs [] m hm).1.mp hwritten).1
    omega

end WalletMessage

end Cosigner
