import Cosigner.Passkey.SignedMessage
import Cosigner.Proofs.Codec
import Mathlib.Algebra.GroupWithZero.Nat

/-!
# Signatures Carried Along

An instruction that carries signatures is written with absolute offsets. The
records come first and the parts that they refer to come behind all records, so
an offset depends on how many entries there are and on the sizes of those in
front. It is read without any of that knowledge: a record is looked up by its
place, and its offsets are followed blindly.

The two meet in `SignatureOffsets.Locates`. It says of one record that its
offsets lead to the three parts of an entry, in the data of the record's own
instruction. That the record at each place locates the entry at that place is
shown once, for the whole instruction, by cutting its data in front of the entry.
Reading back is then a matter of following offsets that are known to be right.

An offset is written in two bytes. It is the start of a message that has to be
below the limit, not its end, so the last message may reach far beyond it.

## Main definitions

* `SignatureOffsets.Locates`: A record whose offsets lead to the parts of an entry.
* `SignatureEntry.preceding`: The size of the entries in front of a place.
* `SignatureEntry.signed`: An entry as a signed message.
* `Instruction.Carries`: An instruction with the signatures that it carries.

## Theorems

* `bytesAt?_middle`: Bytes are found where they were put.
* `SignatureEntry.records?_eq_some`: The records of entries, place by place.
* `verifyInstruction_eq_some`: What an instruction is made as.
* `verifyInstruction_isSome`: When entries can be carried.
* `SignatureOffsets.locates_of_verifyInstruction`: The record at a place locates
  the entry at that place.
* `SignedMessage.ofData_verifyInstruction`: One instruction is read back.
* `signedMessages_verifyInstruction`: All instructions of a transaction are read
  back.
-/

namespace Cosigner

-- Bytes are found where they were put.
theorem bytesAt?_middle (front part tail : Bytes) (offset length : Nat)
    (hoffset : offset = front.length) (hlength : length = part.length) :
    bytesAt? (front ++ (part ++ tail)) offset length = some part := by
  have hroom : offset + length ≤ (front ++ (part ++ tail)).length := by
    rw [List.length_append, List.length_append, hoffset, hlength]
    omega
  rw [bytesAt?, if_pos hroom, List.drop_left' hoffset.symm, List.take_left' hlength.symm]

-- The bytes of an entry, cut out of the bytes of all entries.
theorem flatMap_cut {α : Type} (f : α → Bytes) (xs : List α) (place : Nat) (x : α)
    (h : xs[place]? = some x) :
    xs.flatMap f = (xs.take place).flatMap f ++ (f x ++ (xs.drop (place + 1)).flatMap f) := by
  rcases List.getElem?_eq_some_iff.mp h with ⟨hlt, hx⟩
  have hcut : xs = xs.take place ++ x :: xs.drop (place + 1) := by
    rw [← hx, List.getElem_cons_drop, List.take_append_drop]
  rw [← List.flatMap_cons, ← List.flatMap_append, ← hcut]

namespace SignatureOffsets

theorem exact_codec : codec.Exact fun _ => True :=
  (Codec.exact_u16.pair (Codec.exact_u16.pair (Codec.exact_u16.pair (Codec.exact_u16.pair
    (Codec.exact_u16.pair (Codec.exact_u16.pair Codec.exact_u16)))))).imap _ _ _
    (fun _ _ => ⟨trivial, rfl⟩)
    fun _ _ => ⟨⟨trivial, trivial, trivial, trivial, trivial, trivial, trivial⟩, rfl⟩

theorem length_flatMap_encode (records : List SignatureOffsets) :
    (records.flatMap codec.encode).length = 14 * records.length := by
  induction records with
  | nil => rfl
  | cons o records ih =>
      have hsize : (codec.encode o).length = 14 := rfl
      rw [List.flatMap_cons, List.length_append, List.length_cons, ih, hsize]
      omega

/-- The offsets of a record lead to the parts of an entry, in the data of the
    record's own instruction. -/
structure Locates (o : SignatureOffsets) (own : Bytes) (e : SignatureEntry) : Prop where
  -- The signature.
  signatureInstruction : o.signatureInstruction = current
  signature : bytesAt? own o.signature.toNat 64 = some e.signature.toBytes
  -- The key.
  publicKeyInstruction : o.publicKeyInstruction = current
  publicKey : bytesAt? own o.publicKey.toNat 33 = some e.publicKey.toBytes
  -- The message, with its length.
  messageInstruction : o.messageInstruction = current
  message : bytesAt? own o.message.toNat o.messageSize.toNat = some e.message

end SignatureOffsets

namespace SignatureEntry

/-- An entry as a signed message. -/
def signed (e : SignatureEntry) : SignedMessage :=
  ⟨e.publicKey, e.message, Sha256.digest e.message⟩

-- An entry has a signature, a key and a message, and 97 bytes besides the last.
theorem length_bytes (e : SignatureEntry) : e.bytes.length = 97 + e.message.length := by
  rw [bytes, List.length_append, List.length_append, e.publicKey.length_eq, e.signature.length_eq]

/-- The size of the entries in front of a place. -/
def preceding (entries : List SignatureEntry) (place : Nat) : Nat :=
  ((entries.take place).map fun e => 97 + e.message.length).sum

-- What precedes an entry is all that earlier entries take up.
theorem preceding_cons (e : SignatureEntry) (entries : List SignatureEntry) (place : Nat) :
    preceding (e :: entries) (place + 1) = 97 + e.message.length + preceding entries place := by
  simp only [preceding, List.take_succ_cons, List.map_cons, List.sum_cons]

theorem length_flatMap_bytes (entries : List SignatureEntry) :
    (entries.flatMap bytes).length = (entries.map fun e => 97 + e.message.length).sum := by
  rw [List.length_flatMap]
  exact congrArg List.sum (List.map_congr_left fun e _ => e.length_bytes)

-- The numbers in a record are small enough exactly if the message starts early
-- enough and is short enough.
theorem record?_eq_some (start : Nat) (e : SignatureEntry) (o : SignatureOffsets) :
    e.record? start = some o ↔
      start + 97 < 65536 ∧ e.message.length < 65536 ∧
        o = ⟨UInt16.ofNat (start + 33), SignatureOffsets.current, UInt16.ofNat start,
          SignatureOffsets.current, UInt16.ofNat (start + 97), UInt16.ofNat e.message.length,
          SignatureOffsets.current⟩ := by
  unfold record?
  simp only [Nat.add_assoc, Nat.reduceAdd, Option.ite_none_right_eq_some, Option.some.injEq,
    and_assoc, eq_comm (b := o)]

/-- The records of entries, place by place. Each record is made with the size of
    the entries in front. -/
theorem records?_eq_some (start : Nat) (entries : List SignatureEntry)
    (records : List SignatureOffsets) :
    records? start entries = some records ↔ records.length = entries.length ∧
      ∀ (place : Nat) (e : SignatureEntry), entries[place]? = some e →
        ∃ o, records[place]? = some o ∧ e.record? (start + preceding entries place) = some o := by
  -- The induction is on the entries; the start moves with them.
  induction entries generalizing start records with
  | nil =>
      simp only [records?, Option.some.injEq, List.length_nil, List.length_eq_zero_iff,
        List.getElem?_nil, reduceCtorEq, false_implies, implies_true, and_true, eq_comm]
  | cons e entries ih =>
      simp only [records?, Option.bind_eq_bind, Option.bind_eq_some_iff, Option.pure_def,
        Option.some.injEq, ih, length_bytes]
      constructor
      · intro h
        rcases h with ⟨o, ho, rest, ⟨hlength, hrest⟩, rfl⟩
        refine ⟨congrArg Nat.succ hlength, fun place e' he' => ?_⟩
        cases place with
        | zero =>
            rw [List.getElem?_cons_zero, Option.some.injEq] at he'
            rw [← he']
            exact ⟨o, rfl, ho⟩
        | succ place =>
            rcases hrest place e' he' with ⟨o', ho', hrecord⟩
            rw [preceding_cons, ← Nat.add_assoc]
            exact ⟨o', ho', hrecord⟩
      · intro h
        rcases h with ⟨hlength, hall⟩
        rcases hall 0 e rfl with ⟨o, ho, hrecord⟩
        cases records with
        | nil => exact absurd hlength.symm (Nat.succ_ne_zero _)
        | cons o' rest =>
            rw [List.getElem?_cons_zero, Option.some.injEq] at ho
            refine ⟨o, hrecord, rest, ⟨Nat.succ.inj hlength, fun place e' he' => ?_⟩, by rw [ho]⟩
            rcases hall (place + 1) e' he' with ⟨o'', ho'', hrecord'⟩
            rw [preceding_cons, ← Nat.add_assoc] at hrecord'
            exact ⟨o'', ho'', hrecord'⟩

-- Entries have records if every message starts early enough and is short enough.
theorem records?_isSome (start : Nat) (entries : List SignatureEntry) :
    (∃ records, records? start entries = some records) ↔
      ∀ (place : Nat) (e : SignatureEntry), entries[place]? = some e →
        start + preceding entries place + 97 < 65536 ∧ e.message.length < 65536 := by
  constructor
  · intro h place e he
    rcases h with ⟨records, hrecords⟩
    rcases ((records?_eq_some start entries records).mp hrecords).2 place e he with ⟨o, _, ho⟩
    rcases (record?_eq_some _ e o).mp ho with ⟨hstart, hsize, _⟩
    exact ⟨hstart, hsize⟩
  · intro h
    induction entries generalizing start with
    | nil => exact ⟨[], rfl⟩
    | cons e entries ih =>
        have hfirst := h 0 e rfl
        have ho := (record?_eq_some start e _).mpr ⟨hfirst.1, hfirst.2, rfl⟩
        have hrest : ∃ records, records? (start + e.bytes.length) entries = some records := by
          refine ih _ fun place e' he' => ?_
          have hnext := h (place + 1) e' he'
          rwa [preceding_cons, ← Nat.add_assoc, ← length_bytes] at hnext
        rcases hrest with ⟨records, hrecords⟩
        exact ⟨_ :: records, by rw [records?, ho, hrecords]; rfl⟩

end SignatureEntry

/-- An instruction is made of entries exactly if they can be counted in a byte and
    have records. Their bytes come behind all records. -/
theorem verifyInstruction_eq_some (entries : List SignatureEntry) (ix : Instruction) :
    verifyInstruction entries = some ix ↔ entries.length ≤ 255 ∧
      ∃ records, SignatureEntry.records? (2 + 14 * entries.length) entries = some records ∧
        ix = ⟨Program.passkeyVerifier, [], UInt8.ofNat entries.length :: 0 ::
          (records.flatMap SignatureOffsets.codec.encode ++
            entries.flatMap SignatureEntry.bytes)⟩ := by
  unfold verifyInstruction
  simp only [SignatureOffsets.start, SignatureOffsets.size, Nat.mul_comm entries.length,
    List.cons_append, Option.ite_none_left_eq_some, Nat.not_lt, Option.bind_eq_bind,
    Option.bind_eq_some_iff, Option.pure_def, Option.some.injEq, eq_comm (b := ix)]

/-- When entries can be carried. Only starts are limited: how far the last message
    reaches does not matter. -/
theorem verifyInstruction_isSome (entries : List SignatureEntry) :
    (∃ ix, verifyInstruction entries = some ix) ↔
      entries.length ≤ 255 ∧ (∀ e ∈ entries, e.message.length ≤ 65535) ∧
        ∀ place < entries.length, 2 + 14 * entries.length +
          ((entries.take place).map fun e => 97 + e.message.length).sum + 97 ≤ 65535 := by
  have hrecords := SignatureEntry.records?_isSome (2 + 14 * entries.length) entries
  constructor
  · intro h
    rcases h with ⟨ix, hix⟩
    rcases (verifyInstruction_eq_some entries ix).mp hix with ⟨hfew, records, hsome, _⟩
    have hall := hrecords.mp ⟨records, hsome⟩
    refine ⟨hfew, fun e he => ?_, fun place hplace => ?_⟩
    · rcases List.getElem?_of_mem he with ⟨place, hplace⟩
      have hsize := (hall place e hplace).2
      omega
    · have hstart := (hall place _ (List.getElem?_eq_getElem hplace)).1
      rw [SignatureEntry.preceding] at hstart
      omega
  · intro h
    rcases h with ⟨hfew, hsizes, hstarts⟩
    have hsome : ∃ records, SignatureEntry.records? (2 + 14 * entries.length) entries =
        some records := by
      refine hrecords.mpr fun place e he => ?_
      have hsize := hsizes e (List.mem_of_getElem? he)
      have hstart := hstarts place (List.getElem?_eq_some_iff.mp he).1
      rw [SignatureEntry.preceding]
      exact ⟨by omega, by omega⟩
    rcases hsome with ⟨records, hsome⟩
    exact ⟨_, (verifyInstruction_eq_some entries _).mpr ⟨hfew, records, hsome, rfl⟩⟩

-- A record is read at the place up to which the records in front of it reach.
theorem SignedMessage.recordAt_middle (front tail : Bytes) (o : SignatureOffsets) (place : Nat)
    (h : front.length = 2 + 14 * place) :
    recordAt (front ++ (SignatureOffsets.codec.encode o ++ tail)) place = .ok o := by
  have hstart : SignatureOffsets.start + place * SignatureOffsets.size = front.length := by
    rw [h, Nat.mul_comm 14]
    rfl
  have hfound : bytesAt? (front ++ (SignatureOffsets.codec.encode o ++ tail))
      (SignatureOffsets.start + place * SignatureOffsets.size) SignatureOffsets.size =
      some (SignatureOffsets.codec.encode o) := bytesAt?_middle front _ tail _ _ hstart rfl
  have hread := (SignatureOffsets.exact_codec.decodeAll_eq_ok _ o).mpr ⟨trivial, rfl⟩
  simp only [recordAt, hfound, hread, Except.mapError]

-- The record that an entry is given locates it where its bytes start.
theorem SignatureOffsets.locates_middle (front tail : Bytes) (e : SignatureEntry)
    (o : SignatureOffsets) (h : e.record? front.length = some o) :
    o.Locates (front ++ (e.bytes ++ tail)) e := by
  rcases (SignatureEntry.record?_eq_some _ e o).mp h with ⟨hstart, hsize, rfl⟩
  have hbytes : e.bytes ++ tail =
      e.publicKey.toBytes ++ (e.signature.toBytes ++ (e.message ++ tail)) := by
    simp only [SignatureEntry.bytes, List.append_assoc]
  rw [hbytes]
  constructor
  case signatureInstruction | publicKeyInstruction | messageInstruction => rfl
  case publicKey =>
    have hoffset : (UInt16.ofNat front.length).toNat = front.length :=
      UInt16.toNat_ofNat_of_lt' (by change _ < 65536; omega)
    exact bytesAt?_middle front _ _ _ _ hoffset e.publicKey.length_eq.symm
  case signature =>
    -- Behind the key.
    have hoffset : (UInt16.ofNat (front.length + 33)).toNat =
        (front ++ e.publicKey.toBytes).length := by
      rw [List.length_append, e.publicKey.length_eq]
      exact UInt16.toNat_ofNat_of_lt' (by change _ < 65536; omega)
    rw [← List.append_assoc]
    exact bytesAt?_middle _ _ _ _ _ hoffset e.signature.length_eq.symm
  case message =>
    -- Behind the key and the signature.
    have hoffset : (UInt16.ofNat (front.length + 97)).toNat =
        (front ++ e.publicKey.toBytes ++ e.signature.toBytes).length := by
      rw [List.length_append, List.length_append, e.publicKey.length_eq, e.signature.length_eq]
      exact UInt16.toNat_ofNat_of_lt' hstart
    have hlength : (UInt16.ofNat e.message.length).toNat = e.message.length :=
      UInt16.toNat_ofNat_of_lt' hsize
    rw [← List.append_assoc, ← List.append_assoc]
    exact bytesAt?_middle _ _ _ _ _ hoffset hlength

/-- In the data of an instruction that carries entries, the record at a place locates
    the entry at that place. -/
theorem SignatureOffsets.locates_of_verifyInstruction (entries : List SignatureEntry)
    (ix : Instruction) (h : verifyInstruction entries = some ix) (place : Nat)
    (e : SignatureEntry) (he : entries[place]? = some e) :
    ∃ o, SignedMessage.recordAt ix.data place = .ok o ∧ o.Locates ix.data e := by
  rcases (verifyInstruction_eq_some entries ix).mp h with ⟨_, records, hrecords, rfl⟩
  rcases (SignatureEntry.records?_eq_some _ entries records).mp hrecords with ⟨hcount, hall⟩
  rcases hall place e he with ⟨o, ho, hrecord⟩
  have hplace : place ≤ records.length := Nat.le_of_lt (List.getElem?_eq_some_iff.mp ho).1
  refine ⟨o, ?_, ?_⟩
  · -- In front of the record stand two bytes and the records before it.
    have hcut := SignedMessage.recordAt_middle
      (UInt8.ofNat entries.length :: 0 :: (records.take place).flatMap codec.encode)
      ((records.drop (place + 1)).flatMap codec.encode ++ entries.flatMap SignatureEntry.bytes)
      o place (by
        rw [List.length_cons, List.length_cons, length_flatMap_encode,
          List.length_take_of_le hplace]
        omega)
    rw [flatMap_cut codec.encode records place o ho]
    simpa only [List.cons_append, List.append_assoc] using hcut
  · -- In front of the entry stand all records and the entries before it.
    have hfront : (UInt8.ofNat entries.length :: 0 :: (records.flatMap codec.encode ++
        (entries.take place).flatMap SignatureEntry.bytes)).length =
        2 + 14 * entries.length + SignatureEntry.preceding entries place := by
      rw [List.length_cons, List.length_cons, List.length_append, length_flatMap_encode,
        SignatureEntry.length_flatMap_bytes, hcount, SignatureEntry.preceding]
      omega
    rw [← hfront] at hrecord
    have hcut := locates_middle _ ((entries.drop (place + 1)).flatMap SignatureEntry.bytes) e o
      hrecord
    rw [flatMap_cut SignatureEntry.bytes entries place e he]
    simpa only [List.cons_append, List.append_assoc] using hcut

namespace SignedMessage

-- A record is followed without knowing what else is carried.
theorem ofRecord_of_locates (ixs : List Instruction) (own : Bytes) (o : SignatureOffsets)
    (e : SignatureEntry) (h : o.Locates own e) : ofRecord ixs own o = .ok e.signed := by
  have hkey : Octets.ofBytes? 33 e.publicKey.toBytes = some e.publicKey :=
    dif_pos e.publicKey.length_eq
  unfold ofRecord slice source
  simp only [h.publicKeyInstruction, h.messageInstruction, if_true, h.publicKey, h.message, hkey,
    bind, Except.bind, pure, Except.pure]
  rfl

/-- An instruction that carries entries is read back as the entries, in their order.
    The other instructions do not matter. -/
theorem ofData_verifyInstruction (ixs : List Instruction) (entries : List SignatureEntry)
    (ix : Instruction) (h : verifyInstruction entries = some ix) :
    ofData ixs ix.data = .ok (entries.map SignatureEntry.signed) := by
  have hlocated := SignatureOffsets.locates_of_verifyInstruction entries ix h
  rcases (verifyInstruction_eq_some entries ix).mp h with ⟨hfew, records, _, rfl⟩
  have hcount : (UInt8.ofNat entries.length).toNat = entries.length :=
    UInt8.toNat_ofNat_of_lt' (by change _ < 256; omega)
  simp only [ofData, hcount, Outcome.mapM_eq_ok, List.forall₂_iff_get]
  refine ⟨by simp only [List.length_range, List.length_map], fun place hplace hplace' => ?_⟩
  rw [List.length_range] at hplace
  rcases hlocated place entries[place] (List.getElem?_eq_getElem hplace) with ⟨o, ho, hlocates⟩
  simp only [List.get_eq_getElem, List.getElem_range, List.getElem_map, ho, bind, Except.bind]
  exact ofRecord_of_locates ixs _ o _ hlocates

end SignedMessage

/-- An instruction with the signatures that it carries. Only those of one program
    carry any. -/
def Instruction.Carries (ix : Instruction) (entries : List SignatureEntry) : Prop :=
  if ix.program = Program.passkeyVerifier then verifyInstruction entries = some ix
  else entries = []

instance (ix : Instruction) (entries : List SignatureEntry) : Decidable (ix.Carries entries) :=
  inferInstanceAs (Decidable (if ix.program = Program.passkeyVerifier then
    verifyInstruction entries = some ix else entries = []))

-- The walk keeps the whole transaction at hand, for records that refer to other
-- instructions. None of these do.
theorem SignedMessage.collect_of_carries (all ixs : List Instruction)
    (carried : List (List SignatureEntry)) (position : Nat)
    (h : List.Forall₂ Instruction.Carries ixs carried) :
    collect all position ixs = .ok (carried.flatten.map SignatureEntry.signed) := by
  induction h generalizing position with
  | nil => rfl
  | @cons ix entries ixs carried hix _ ih =>
      unfold Instruction.Carries at hix
      rw [List.flatten_cons, List.map_append]
      by_cases hprogram : ix.program = Program.passkeyVerifier
      · rw [if_pos hprogram] at hix
        simp only [collect, if_pos hprogram, ofData_verifyInstruction all entries ix hix, ih]
        rfl
      · rw [if_neg hprogram] at hix
        rw [collect, if_neg hprogram, ih, hix]
        rfl

/-- Entries can be carried exactly if there are at most 255, every message has at
    most 65535 bytes and every message starts at an offset of at most 65535. In the
    instruction made of them each record leads to the signature of its entry. And
    whatever else a transaction holds, the signed messages that are found in it are
    those that its instructions were made to carry, in their order. -/
theorem signedMessages_verifyInstruction (entries : List SignatureEntry)
    (ixs : List Instruction) (carried : List (List SignatureEntry))
    (h : List.Forall₂ Instruction.Carries ixs carried) :
    ((∃ ix, verifyInstruction entries = some ix) ↔
      entries.length ≤ 255 ∧ (∀ e ∈ entries, e.message.length ≤ 65535) ∧
        ∀ place < entries.length, 2 + 14 * entries.length +
          ((entries.take place).map fun e => 97 + e.message.length).sum + 97 ≤ 65535) ∧
      (∀ ix, verifyInstruction entries = some ix →
        ∀ (place : Nat) (e : SignatureEntry), entries[place]? = some e →
          ∃ o, SignedMessage.recordAt ix.data place = .ok o ∧
            o.signatureInstruction = SignatureOffsets.current ∧
            bytesAt? ix.data o.signature.toNat 64 = some e.signature.toBytes) ∧
      signedMessages ixs = .ok (carried.flatten.map fun e =>
        ⟨e.publicKey, e.message, Sha256.digest e.message⟩) := by
  have hread := SignedMessage.collect_of_carries ixs ixs carried 0 h
  refine ⟨verifyInstruction_isSome entries, fun ix hix place e he => ?_, hread⟩
  rcases SignatureOffsets.locates_of_verifyInstruction entries ix hix place e he with
    ⟨o, ho, hlocates⟩
  exact ⟨o, ho, hlocates.signatureInstruction, hlocates.signature⟩

/-- Two instructions that carry signatures, one of them for an empty message, with a
    note between them. -/
theorem signedMessages_verifyInstruction_emptyMessage :
    let entry (n : UInt8) (message : Bytes) : SignatureEntry :=
      ⟨Octets.replicate 33 n, Octets.replicate 64 n, message⟩
    let entries : List SignatureEntry := [entry 2 [], entry 3 [1, 2, 3]]
    let first : Instruction := ⟨Program.passkeyVerifier, [],
      [2, 0, 63, 0, 255, 255, 30, 0, 255, 255, 127, 0, 0, 0, 255, 255,
        160, 0, 255, 255, 127, 0, 255, 255, 224, 0, 3, 0, 255, 255] ++
        entries.flatMap SignatureEntry.bytes⟩
    let note : Instruction := ⟨Program.memo, [], [1]⟩
    let last : Instruction := ⟨Program.passkeyVerifier, [],
      [1, 0, 49, 0, 255, 255, 16, 0, 255, 255, 113, 0, 1, 0, 255, 255] ++ (entry 4 [9]).bytes⟩
    List.Forall₂ Instruction.Carries [first, note, last] [entries, [], [entry 4 [9]]] ∧
      verifyInstruction entries = some first ∧
      (∃ o, SignedMessage.recordAt first.data 1 = .ok o ∧
        o.signatureInstruction = SignatureOffsets.current ∧
        bytesAt? first.data o.signature.toNat 64 = some (List.replicate 64 3)) ∧
      signedMessages [first, note, last] = .ok [
        ⟨Octets.replicate 33 2, [], Sha256.digest []⟩,
        ⟨Octets.replicate 33 3, [1, 2, 3], Sha256.digest [1, 2, 3]⟩,
        ⟨Octets.replicate 33 4, [9], Sha256.digest [9]⟩] := by
  intro entry entries first note last
  have hfirst : verifyInstruction entries = some first := by decide +kernel
  have hcarries : List.Forall₂ Instruction.Carries [first, note, last]
      [entries, [], [entry 4 [9]]] :=
    .cons (by decide +kernel) (.cons (by decide +kernel) (.cons (by decide +kernel) .nil))
  have hread := signedMessages_verifyInstruction entries _ _ hcarries
  exact ⟨hcarries, hfirst, hread.2.1 first hfirst 1 (entry 3 [1, 2, 3]) rfl, hread.2.2⟩

end Cosigner
