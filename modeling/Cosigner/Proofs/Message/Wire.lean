import Cosigner.Message.Wire
import Cosigner.Proofs.Codec

/-!
# The Wire Form Has One Spelling

The wire form of a message nests three lists of different layouts, and every
length in it is written in one byte or two. `WalletMessage.Fits` says in plain
terms which messages these lengths can count: at most 255 of everything, and at
most 65535 bytes of data for an instruction.

Writing measures a message before it writes, and reading cannot produce a
message that is too large. So both directions have the same messages in view,
and between these and the byte strings that decode they are inverse to each
other. Nothing that is accepted has a second spelling.

A wire form is also never long. The bound matters wherever one is stored behind
a length of its own.

## Main definitions

* `WalletMessage.Fits`: A message whose lengths can be written.

## Theorems

* `WalletMessage.exact_codec`: The layout of a message is exact.
* `WalletMessage.encode_eq_ok`: What writing comes out with.
* `WalletMessage.decode_eq_ok`: What reading comes out with.
* `WalletMessage.encode_eq_ok_iff`: What is written is what decodes.
* `WalletMessage.length_lt_of_encode`: How long a wire form can be.
* `WalletMessage.encode_decode_inverse`: Writing and reading are inverse.
-/

namespace Cosigner

theorem Header.exact_codec : Header.codec.Exact fun _ => True :=
  (Codec.exact_u8.pair (Codec.exact_u8.pair Codec.exact_u8)).imap _ _ _
    (fun _ _ => ⟨trivial, rfl⟩) fun _ _ => ⟨⟨trivial, trivial, trivial⟩, rfl⟩

/-- An instruction whose lengths can be written. -/
structure IndexedInstruction.Fits (ix : IndexedInstruction) : Prop where
  -- The number of accounts is written in one byte.
  accounts : ix.accounts.length ≤ 255
  -- The size of the data is written in two.
  data : ix.data.length ≤ 65535

/-- A table lookup whose lengths can be written. -/
structure TableLookup.Fits (l : TableLookup) : Prop where
  -- Both numbers of entries are written in one byte.
  writable : l.writable.length ≤ 255
  readonly : l.readonly.length ≤ 255

/-- A message whose lengths can be written. -/
structure WalletMessage.Fits (m : WalletMessage) : Prop where
  -- The three numbers of entries are written in one byte.
  keys : m.keys.length ≤ 255
  instructionCount : m.instructions.length ≤ 255
  lookupCount : m.lookups.length ≤ 255
  -- So is every length inside of an entry, but for the size of data.
  instructions : ∀ ix ∈ m.instructions, ix.Fits
  lookups : ∀ l ∈ m.lookups, l.Fits

theorem IndexedInstruction.exact_codec :
    IndexedInstruction.codec.Exact IndexedInstruction.Fits := by
  refine (Codec.exact_u8.pair ((Codec.exact_blob 1).pair (Codec.exact_blob 2))).imap _ _ _
    (fun parts h => ⟨⟨?_, ?_⟩, rfl⟩) (fun ix h => ⟨⟨trivial, ?_, ?_⟩, rfl⟩)
  · exact Nat.le_of_lt_succ h.2.1
  · exact Nat.le_of_lt_succ h.2.2
  · exact Nat.lt_succ_of_le h.accounts
  · exact Nat.lt_succ_of_le h.data

theorem TableLookup.exact_codec : TableLookup.codec.Exact TableLookup.Fits := by
  refine ((Codec.exact_octets 32).pair ((Codec.exact_blob 1).pair (Codec.exact_blob 1))).imap _ _ _
    (fun parts h => ⟨⟨?_, ?_⟩, rfl⟩) (fun l h => ⟨⟨trivial, ?_, ?_⟩, rfl⟩)
  · exact Nat.le_of_lt_succ h.2.1
  · exact Nat.le_of_lt_succ h.2.2
  · exact Nat.lt_succ_of_le h.writable
  · exact Nat.lt_succ_of_le h.readonly

namespace WalletMessage

/-- The layout of a message accepts exactly the forms of the messages that fit. -/
theorem exact_codec : codec.Exact Fits := by
  refine (Header.exact_codec.pair (((Codec.exact_octets 32).listOf 1).pair
    ((IndexedInstruction.exact_codec.listOf 1).pair (TableLookup.exact_codec.listOf 1)))).imap _ _ _
    (fun parts h => ⟨?_, rfl⟩) (fun m h => ⟨⟨trivial, ?_, ?_, ?_⟩, rfl⟩)
  · rcases h with ⟨_, ⟨hkeys, _⟩, ⟨hixs, hix⟩, ⟨hlookups, hlookup⟩⟩
    exact ⟨Nat.le_of_lt_succ hkeys, Nat.le_of_lt_succ hixs, Nat.le_of_lt_succ hlookups, hix,
      hlookup⟩
  · exact ⟨Nat.lt_succ_of_le h.keys, fun _ _ => trivial⟩
  · exact ⟨Nat.lt_succ_of_le h.instructionCount, h.instructions⟩
  · exact ⟨Nat.lt_succ_of_le h.lookupCount, h.lookups⟩

/-- A message fits if no part that is measured before writing is too large. -/
theorem fits_iff_extents (m : WalletMessage) :
    m.Fits ↔ ∀ e ∈ m.extents, e.2 ≤ e.1.limit := by
  simp only [extents, List.cons_append, List.forall_mem_cons, List.forall_mem_append,
    List.forall_mem_flatMap, MessagePart.limit]
  constructor
  · intro h
    refine ⟨h.keys, h.instructionCount, fun ix hix => ?_, h.lookupCount, fun l hl => ?_⟩
    · exact ⟨(h.instructions ix hix).accounts, (h.instructions ix hix).data, List.forall_mem_nil _⟩
    · exact ⟨(h.lookups l hl).writable, (h.lookups l hl).readonly, List.forall_mem_nil _⟩
  · intro h
    rcases h with ⟨hkeys, hixs, hix, hlookups, hlookup⟩
    exact ⟨hkeys, hixs, hlookups, fun ix hmem => ⟨(hix ix hmem).1, (hix ix hmem).2.1⟩,
      fun l hmem => ⟨(hlookup l hmem).1, (hlookup l hmem).2.1⟩⟩

/-- Writing comes out with the form of the message, if the message fits. -/
theorem encode_eq_ok (m : WalletMessage) (bs : Bytes) :
    m.encode = .ok bs ↔ m.Fits ∧ bs = codec.encode m := by
  rw [encode, fits_iff_extents]
  cases hfind : m.extents.find? (fun e => e.1.limit < e.2) with
  | none =>
      have hall : ∀ e ∈ m.extents, e.2 ≤ e.1.limit := by
        intro e he
        have hnot := List.find?_eq_none.mp hfind e he
        rw [decide_eq_true_iff] at hnot
        exact Nat.le_of_not_lt hnot
      simp only [Except.ok.injEq]
      exact ⟨fun h => ⟨hall, h.symm⟩, fun h => h.2.symm⟩
  | some e =>
      have hlarge := List.find?_some hfind
      rw [decide_eq_true_iff] at hlarge
      simp only [reduceCtorEq, false_iff, not_and]
      intro hall
      exact absurd (hall e (List.mem_of_find?_eq_some hfind)) (Nat.not_le_of_lt hlarge)

/-- Reading comes out with a message that fits and whose form the input is. -/
theorem decode_eq_ok (bs : Bytes) (m : WalletMessage) :
    decode bs = .ok m ↔ m.Fits ∧ bs = codec.encode m := by
  rw [← exact_codec.decodeAll_eq_ok, decode]
  cases codec.decodeAll bs with
  | error fault => simp only [reduceCtorEq]
  | ok found => simp only [Except.ok.injEq]

/-- What is written is what decodes. -/
theorem encode_eq_ok_iff (m : WalletMessage) (bs : Bytes) :
    m.encode = .ok bs ↔ decode bs = .ok m := by
  rw [encode_eq_ok, decode_eq_ok]

/-- A wire form is shorter than a length in four bytes can count. -/
theorem length_lt_of_encode (m : WalletMessage) (bs : Bytes) (h : m.encode = .ok bs) :
    bs.length < 256 ^ 4 := by
  rcases (m.encode_eq_ok bs).mp h with ⟨hfits, hbs⟩
  have hix : ∀ ix ∈ m.instructions, (IndexedInstruction.codec.encode ix).length ≤ 65794 := by
    intro ix hmem
    have haccounts := (hfits.instructions ix hmem).accounts
    have hdata := (hfits.instructions ix hmem).data
    simp only [IndexedInstruction.codec, Codec.imap, Codec.pair, Codec.length_encode_u8,
      Codec.length_encode_blob, List.length_append]
    omega
  have hlookup : ∀ l ∈ m.lookups, (TableLookup.codec.encode l).length ≤ 544 := by
    intro l hmem
    have hwritable := (hfits.lookups l hmem).writable
    have hreadonly := (hfits.lookups l hmem).readonly
    simp only [TableLookup.codec, Codec.imap, Codec.pair, Codec.length_encode_octets,
      Codec.length_encode_blob, List.length_append]
    omega
  have hkey : ∀ k ∈ m.keys, ((Codec.octets 32).encode k).length ≤ 32 :=
    fun k _ => Nat.le_of_eq (Codec.length_encode_octets k)
  have hkeys := Codec.length_encode_listOf_le 1 _ m.keys 32 hkey
  have hixs := Codec.length_encode_listOf_le 1 _ m.instructions 65794 hix
  have hlookups := Codec.length_encode_listOf_le 1 _ m.lookups 544 hlookup
  have := hfits.keys
  have := hfits.instructionCount
  have := hfits.lookupCount
  simp only [hbs, codec, Header.codec, Codec.imap, Codec.pair, Codec.length_encode_u8,
    List.length_append]
  omega

/-- Writing and reading are inverse to each other. A message can be written
    exactly if it has at most 255 keys, instructions, lookups, accounts of an
    instruction and entries of a lookup, and at most 65535 bytes of data for an
    instruction. It is then what its bytes decode to, and bytes that decode are
    those that are written for the message they decode to. So no two byte strings
    decode to one message, and no two messages are written alike. -/
theorem encode_decode_inverse :
    (∀ m : WalletMessage, (∃ bs, m.encode = .ok bs) ↔
      m.keys.length ≤ 255 ∧ m.instructions.length ≤ 255 ∧ m.lookups.length ≤ 255 ∧
        (∀ ix ∈ m.instructions, ix.accounts.length ≤ 255 ∧ ix.data.length ≤ 65535) ∧
        ∀ l ∈ m.lookups, l.writable.length ≤ 255 ∧ l.readonly.length ≤ 255) ∧
      (∀ (m : WalletMessage) (bs : Bytes), m.encode = .ok bs ↔ decode bs = .ok m) ∧
      (∀ (bs bs' : Bytes) (m : WalletMessage), decode bs = .ok m → decode bs' = .ok m → bs = bs') ∧
      ∀ (m m' : WalletMessage) (bs : Bytes), m.encode = .ok bs → m'.encode = .ok bs → m = m' := by
  refine ⟨fun m => ⟨fun h => ?_, fun h => ?_⟩, encode_eq_ok_iff, fun bs bs' m h h' => ?_,
    fun m m' bs h h' => ?_⟩
  · rcases h with ⟨bs, hbs⟩
    have hfits := ((encode_eq_ok m bs).mp hbs).1
    exact ⟨hfits.keys, hfits.instructionCount, hfits.lookupCount,
      fun ix hix => ⟨(hfits.instructions ix hix).accounts, (hfits.instructions ix hix).data⟩,
      fun l hl => ⟨(hfits.lookups l hl).writable, (hfits.lookups l hl).readonly⟩⟩
  · rcases h with ⟨hkeys, hixs, hlookups, hix, hlookup⟩
    refine ⟨codec.encode m, (encode_eq_ok m _).mpr ⟨⟨hkeys, hixs, hlookups, ?_, ?_⟩, rfl⟩⟩
    · exact fun ix hmem => ⟨(hix ix hmem).1, (hix ix hmem).2⟩
    · exact fun l hmem => ⟨(hlookup l hmem).1, (hlookup l hmem).2⟩
  · rw [((decode_eq_ok bs m).mp h).2, ((decode_eq_ok bs' m).mp h').2]
  · -- Both are what the bytes decode to.
    rw [encode_eq_ok_iff] at h h'
    rw [h, Except.ok.injEq] at h'
    exact h'

end WalletMessage

end Cosigner
