import Cosigner.Audit.Route
import Cosigner.Proofs.Passkey.SignedMessage

/-!
# References Into a Transaction

Whoever sends a transaction writes the records in it. Any number may stand in them: an
offset behind the end of the data, an instruction that comes later, the instruction
itself under its own number, an instruction that the transaction does not have. The
number of records is a byte of the data as well, and is not bound to its length.

So what a record refers to is described here without reading it. A part of some data
stands at an offset if the data can be cut there, and it lies inside if the cut can be
made at all. Both are facts about the data alone, and following a record succeeds for
the one reason that they hold. All records of a transaction can be followed if and only
if all ranges lie inside, and the first instruction with a range outside is the one that
is reported.

Instructions are found by their number from the front. More instructions behind a
transaction thus leave the meaning of every number that had one, and the messages of
the transaction stay where they are in the row of all messages.

## Main definitions

* `StandsAt`: A part of some data.
* `SignatureOffsets.LeadsTo`: What a record refers to.
* `Instruction.Signs`: The messages of one instruction.
* `Instruction.InBounds`: Nothing is referred to that is not there.
* `verifying`: The instructions that carry signatures.
* `FirstOutside`: The first instruction that refers to something missing.

## Theorems

* `SignedMessage.slice_eq_ok`, `SignedMessage.slice_isOk`: Following one reference.
* `SignedMessage.recordAt_eq_ok`, `SignedMessage.recordAt_isOk`: Finding a record.
* `SignedMessage.ofData_eq_ok`, `SignedMessage.ofData_isOk`: One instruction.
* `SignedMessage.collect_eq_ok`, `SignedMessage.collect_eq_error`: All of them.
* `Instruction.Signs.append`: References have the same meaning in a longer transaction.
* `carriedMessages_references`: The messages of a transaction.
-/

namespace Cosigner

/-- A part stands in some data at an offset. -/
def StandsAt (data : Bytes) (offset : Nat) (part : Bytes) : Prop :=
  ∃ before after, data = before ++ part ++ after ∧ before.length = offset

/-- A slice is the byte string that stands at the offset and has the length. -/
theorem bytesAt?_eq_some (bs : Bytes) (offset length : Nat) (part : Bytes) :
    bytesAt? bs offset length = some part ↔ StandsAt bs offset part ∧ part.length = length := by
  constructor
  · intro h
    simp only [bytesAt?, Option.ite_none_right_eq_some, Option.some.injEq] at h
    rcases h with ⟨hroom, rfl⟩
    refine ⟨⟨bs.take offset, (bs.drop offset).drop length, ?_, ?_⟩, ?_⟩
    · rw [List.append_assoc, List.take_append_drop, List.take_append_drop]
    · rw [List.length_take]
      omega
    · rw [List.length_take, List.length_drop]
      omega
  · intro h
    rcases h with ⟨⟨before, after, rfl, hoffset⟩, hlength⟩
    rw [List.append_assoc]
    exact bytesAt?_middle before part after offset length hoffset.symm hlength.symm

/-- There is a slice exactly if it ends in time. -/
theorem bytesAt?_isSome (bs : Bytes) (offset length : Nat) :
    (∃ part, bytesAt? bs offset length = some part) ↔ offset + length ≤ bs.length := by
  simp only [bytesAt?, Option.ite_none_right_eq_some, Option.some.injEq, exists_and_left,
    exists_eq', and_true]

namespace SignatureOffsets

/-- The bytes of a record: its seven numbers, each in two bytes, the low one first. -/
def form (o : SignatureOffsets) : Bytes :=
  [o.signature, o.signatureInstruction, o.publicKey, o.publicKeyInstruction, o.message,
    o.messageSize, o.messageInstruction].flatMap fun n => leBytes 2 n.toNat

theorem encode_codec (o : SignatureOffsets) : codec.encode o = o.form := rfl

-- Seven numbers of two bytes.
theorem length_form (o : SignatureOffsets) : o.form.length = 14 := rfl

-- Any fourteen bytes are a record.
theorem total_codec : codec.Total 14 :=
  (Codec.total_u16.pair (Codec.total_u16.pair (Codec.total_u16.pair (Codec.total_u16.pair
    (Codec.total_u16.pair (Codec.total_u16.pair Codec.total_u16)))))).imap _ _

/-- The data that a record means by the number of an instruction: its own if the number
    is the one set aside for this, else that of the instruction with this number. -/
def Means (ixs : List Instruction) (own : Bytes) (instruction : UInt16) (data : Bytes) : Prop :=
  (instruction = 0xFFFF ∧ data = own) ∨
    (instruction ≠ 0xFFFF ∧ ∃ ix, ixs[instruction.toNat]? = some ix ∧ data = ix.data)

/-- A part that a record refers to. -/
def Refers (ixs : List Instruction) (own : Bytes) (instruction offset : UInt16) (part : Bytes) :
    Prop :=
  ∃ data, Means ixs own instruction data ∧ StandsAt data offset.toNat part

/-- A range that a record refers to lies inside the data that it means. -/
def Inside (ixs : List Instruction) (own : Bytes) (instruction offset : UInt16) (length : Nat) :
    Prop :=
  ∃ data, Means ixs own instruction data ∧ offset.toNat + length ≤ data.length

/-- A record leads to a signed message: its key is the 33 bytes and its message the
    bytes of the size that the record has, where the record says, and its hash is the
    digest of this message. -/
structure LeadsTo (ixs : List Instruction) (own : Bytes) (o : SignatureOffsets)
    (m : SignedMessage) : Prop where
  -- The key, which has 33 bytes by its type.
  publicKey : Refers ixs own o.publicKeyInstruction o.publicKey m.publicKey.toBytes
  -- The message.
  message : Refers ixs own o.messageInstruction o.message m.message
  size : m.message.length = o.messageSize.toNat
  hash : m.hash = Sha256.digest m.message

end SignatureOffsets

namespace Instruction

/-- The number of signatures that an instruction says it carries. -/
def signatureCount (ix : Instruction) : Nat :=
  (ix.data.headD 0).toNat

/-- The signed messages of an instruction, one for each of its records. -/
structure Signs (ixs : List Instruction) (ix : Instruction) (found : List SignedMessage) :
    Prop where
  nonempty : ix.data ≠ []
  length_eq : found.length = ix.signatureCount
  leadsTo : ∀ place m, found[place]? = some m →
    ∃ o : SignatureOffsets, StandsAt ix.data (2 + 14 * place) o.form ∧ o.LeadsTo ixs ix.data m

/-- The data of an instruction is not empty, its records lie inside it, and the ranges
    that they refer to lie inside the data that they mean. -/
structure InBounds (ixs : List Instruction) (ix : Instruction) : Prop where
  nonempty : ix.data ≠ []
  records : ∀ place < ix.signatureCount, 2 + 14 * place + 14 ≤ ix.data.length
  ranges : ∀ place < ix.signatureCount, ∀ o : SignatureOffsets,
    StandsAt ix.data (2 + 14 * place) o.form →
      SignatureOffsets.Inside ixs ix.data o.publicKeyInstruction o.publicKey 33 ∧
        SignatureOffsets.Inside ixs ix.data o.messageInstruction o.message o.messageSize.toNat

end Instruction

/-- The instructions of a transaction that carry signatures. -/
def verifying (ixs : List Instruction) : List Instruction :=
  ixs.filter (·.program = Program.passkeyVerifier)

/-- The instruction at an offset is the first that refers to something missing. -/
def FirstOutside (ixs rest : List Instruction) (offset : Nat) : Prop :=
  ∃ before ix after, rest = before ++ ix :: after ∧ before.length = offset ∧
    ix.program = Program.passkeyVerifier ∧ ¬ ix.InBounds ixs ∧
      ∀ earlier ∈ verifying before, earlier.InBounds ixs

-- Instructions of other programs are passed over.
theorem verifying_cons (ix : Instruction) (rest : List Instruction) :
    verifying (ix :: rest) =
      if ix.program = Program.passkeyVerifier then ix :: verifying rest else verifying rest := by
  simp only [verifying, List.filter_cons, decide_eq_true_eq]

-- In front of the first instruction outside, one within bounds moves it back by a place.
theorem FirstOutside.cons (ixs : List Instruction) (ix : Instruction) (rest : List Instruction)
    (offset : Nat) (h : FirstOutside ixs rest offset)
    (hhead : ix.program = Program.passkeyVerifier → ix.InBounds ixs) :
    FirstOutside ixs (ix :: rest) (offset + 1) := by
  rcases h with ⟨before, ix', after, rfl, rfl, hprogram, hout, hall⟩
  refine ⟨ix :: before, ix', after, rfl, rfl, hprogram, hout, ?_⟩
  rw [verifying_cons]
  split
  · exact List.forall_mem_cons.mpr ⟨hhead ‹_›, hall⟩
  · exact hall

namespace SignedMessage

open SignatureOffsets

variable (ixs : List Instruction)

/-- A reference is read from the data that it means. -/
theorem source_eq_ok (own : Bytes) (instruction : UInt16) (data : Bytes) :
    source ixs own instruction = .ok data ↔ Means ixs own instruction data := by
  unfold source Means current
  by_cases hown : instruction = 0xFFFF
  · simp only [hown, if_true, Except.ok.injEq, true_and, ne_eq, not_true, false_and, or_false]
    exact eq_comm
  · simp only [hown, if_false, false_and, ne_eq, not_false_eq_true, true_and, false_or]
    cases ixs[instruction.toNat]? with
    | none => simp only [reduceCtorEq, false_and, exists_false]
    | some ix =>
        simp only [Except.ok.injEq, Option.some.injEq, exists_eq_left']
        exact eq_comm

theorem slice_eq_bytesAt? (own : Bytes) (instruction offset : UInt16) (length : Nat)
    (part : Bytes) :
    slice ixs own instruction offset length = .ok part ↔
      ∃ data, Means ixs own instruction data ∧
        bytesAt? data offset.toNat length = some part := by
  unfold slice
  rw [Outcome.bind_eq_ok]
  refine exists_congr fun data => and_congr (source_eq_ok ixs own instruction data) ?_
  cases bytesAt? data offset.toNat length with
  | none => simp only [Outcome.throw_eq, reduceCtorEq]
  | some bs => simp only [Outcome.pure_eq_ok, Option.some.injEq]

/-- A reference is followed to what it refers to, if that has the size that is asked for.
    -/
theorem slice_eq_ok (own : Bytes) (instruction offset : UInt16) (length : Nat) (part : Bytes) :
    slice ixs own instruction offset length = .ok part ↔
      Refers ixs own instruction offset part ∧ part.length = length := by
  simp only [slice_eq_bytesAt?, bytesAt?_eq_some, Refers, ← and_assoc, exists_and_right]

/-- A reference is followed exactly if it stays inside. -/
theorem slice_isOk (own : Bytes) (instruction offset : UInt16) (length : Nat) :
    (∃ part, slice ixs own instruction offset length = .ok part) ↔
      Inside ixs own instruction offset length := by
  simp only [slice_eq_bytesAt?, Inside, ← bytesAt?_isSome]
  constructor
  · intro h
    rcases h with ⟨part, data, hmeans, hpart⟩
    exact ⟨data, hmeans, part, hpart⟩
  · intro h
    rcases h with ⟨data, hmeans, part, hpart⟩
    exact ⟨part, data, hmeans, hpart⟩

-- The count and one unused byte stand in front of the records.
theorem recordAt_offset (place : Nat) : start + place * size = 2 + 14 * place := by
  rw [Nat.mul_comm]
  rfl

/-- A record is read as the one whose bytes stand in its place. -/
theorem recordAt_eq_ok (own : Bytes) (place : Nat) (o : SignatureOffsets) :
    recordAt own place = .ok o ↔ StandsAt own (2 + 14 * place) o.form := by
  have hform (bs : Bytes) : codec.decodeAll bs = .ok o ↔ bs = o.form := by
    rw [exact_codec.decodeAll_eq_ok, encode_codec, true_and]
  have hplace : recordAt own place = .ok o ↔
      bytesAt? own (2 + 14 * place) size = some o.form := by
    simp only [recordAt, recordAt_offset]
    cases bytesAt? own (2 + 14 * place) size with
    | none => simp only [reduceCtorEq]
    | some bs => simp only [Outcome.mapError_eq_ok, hform, Option.some.injEq]
  rw [hplace, bytesAt?_eq_some, length_form]
  exact and_iff_left rfl

/-- A record is read exactly if the data reach to its end. -/
theorem recordAt_isOk (own : Bytes) (place : Nat) :
    (∃ o, recordAt own place = .ok o) ↔ 2 + 14 * place + 14 ≤ own.length := by
  rw [← bytesAt?_isSome]
  simp only [recordAt_eq_ok]
  constructor
  · intro h
    rcases h with ⟨o, hstands⟩
    exact ⟨o.form, (bytesAt?_eq_some _ _ _ _).mpr ⟨hstands, length_form o⟩⟩
  · intro h
    rcases h with ⟨part, hpart⟩
    rcases (bytesAt?_eq_some _ _ _ _).mp hpart with ⟨hstands, hlength⟩
    rcases total_codec.decodeAll_isOk part hlength with ⟨o, ho⟩
    have hform := ((exact_codec.decodeAll_eq_ok part o).mp ho).2
    exact ⟨o, by rwa [← encode_codec, ← hform]⟩

/-- A record is followed to the signed message that it leads to. -/
theorem ofRecord_eq_ok (own : Bytes) (o : SignatureOffsets) (m : SignedMessage) :
    ofRecord ixs own o = .ok m ↔ o.LeadsTo ixs own m := by
  simp only [ofRecord, Outcome.bind_eq_ok, slice_eq_ok]
  constructor
  · intro h
    rcases h with ⟨key, ⟨hkey, hlength⟩, message, ⟨hmessage, hsize⟩, h⟩
    rw [Octets.ofBytes?, dif_pos hlength] at h
    rw [← (Outcome.pure_eq_ok _ _).mp h]
    exact ⟨hkey, hmessage, hsize, rfl⟩
  · intro h
    refine ⟨m.publicKey.toBytes, ⟨h.publicKey, m.publicKey.length_eq⟩, m.message,
      ⟨h.message, h.size⟩, ?_⟩
    simp only [Octets.ofBytes?, dif_pos m.publicKey.length_eq, ← h.hash]
    rfl

/-- A record leads to a message exactly if key and message are inside. The signature is
    not looked at. -/
theorem ofRecord_isOk (own : Bytes) (o : SignatureOffsets) :
    (∃ m, ofRecord ixs own o = .ok m) ↔
      Inside ixs own o.publicKeyInstruction o.publicKey 33 ∧
        Inside ixs own o.messageInstruction o.message o.messageSize.toNat := by
  simp only [← slice_isOk, slice_eq_ok, ofRecord_eq_ok]
  constructor
  · intro h
    rcases h with ⟨m, hm⟩
    exact ⟨⟨_, hm.publicKey, m.publicKey.length_eq⟩, _, hm.message, hm.size⟩
  · intro h
    rcases h with ⟨⟨key, hkey, hlength⟩, message, hmessage, hsize⟩
    exact ⟨⟨⟨key, hlength⟩, message, Sha256.digest message⟩, hkey, hmessage, hsize, rfl⟩

-- The record at a place is there and can be followed. Any two records at one place are
-- the same, so it is enough to speak of all of them.
theorem bind_recordAt_isOk (own : Bytes) (place : Nat) :
    (∃ m, recordAt own place >>= ofRecord ixs own = .ok m) ↔
      2 + 14 * place + 14 ≤ own.length ∧
        ∀ o : SignatureOffsets, StandsAt own (2 + 14 * place) o.form →
          Inside ixs own o.publicKeyInstruction o.publicKey 33 ∧
            Inside ixs own o.messageInstruction o.message o.messageSize.toNat := by
  simp only [← recordAt_isOk, ← recordAt_eq_ok, ← ofRecord_isOk, Outcome.bind_eq_ok]
  constructor
  · intro h
    rcases h with ⟨m, o, ho, hm⟩
    refine ⟨⟨o, ho⟩, fun o' ho' => ⟨m, ?_⟩⟩
    rw [ho, Except.ok.injEq] at ho'
    rwa [← ho']
  · intro h
    rcases h with ⟨⟨o, ho⟩, hall⟩
    rcases hall o ho with ⟨m, hm⟩
    exact ⟨m, o, ho, hm⟩

/-- An instruction carries the messages that it signs. -/
theorem ofData_eq_ok (ix : Instruction) (found : List SignedMessage) :
    ofData ixs ix.data = .ok found ↔ ix.Signs ixs found := by
  cases hdata : ix.data with
  | nil =>
      refine ⟨fun h => absurd h (by simp only [ofData, reduceCtorEq, not_false_eq_true]), fun h => ?_⟩
      exact absurd hdata h.nonempty
  | cons count rest =>
      have hcount : ix.signatureCount = count.toNat := by
        rw [Instruction.signatureCount, hdata, List.headD_cons]
      simp only [ofData, Outcome.mapM_range_eq_ok, Outcome.bind_eq_ok, recordAt_eq_ok,
        ofRecord_eq_ok, ← hcount, ← hdata]
      constructor
      · intro h
        exact ⟨by rw [hdata]; exact List.cons_ne_nil _ _, h.1, h.2⟩
      · intro h
        exact ⟨h.length_eq, h.leadsTo⟩

/-- An instruction is read exactly if it is within bounds. -/
theorem ofData_isOk (ix : Instruction) :
    (∃ found, ofData ixs ix.data = .ok found) ↔ ix.InBounds ixs := by
  cases hdata : ix.data with
  | nil =>
      refine ⟨fun h => ?_, fun h => absurd hdata h.nonempty⟩
      simp only [ofData, reduceCtorEq, exists_false] at h
  | cons count rest =>
      have hcount : ix.signatureCount = count.toNat := by
        rw [Instruction.signatureCount, hdata, List.headD_cons]
      simp only [ofData, Outcome.mapM_isOk, List.mem_range, bind_recordAt_isOk, ← hcount, ← hdata]
      constructor
      · intro h
        exact ⟨by rw [hdata]; exact List.cons_ne_nil _ _, fun place hplace => (h place hplace).1,
          fun place hplace => (h place hplace).2⟩
      · intro h place hplace
        exact ⟨h.records place hplace, h.ranges place hplace⟩

-- The position is for the refusal only, so it does not matter where counting starts.
theorem collect_eq_ok (position : Nat) (rest : List Instruction) (ms : List SignedMessage) :
    collect ixs position rest = .ok ms ↔
      ∃ parts, (verifying rest).mapM (fun ix => ofData ixs ix.data) = .ok parts ∧
        ms = parts.flatten := by
  -- The induction is on the instructions that are left to look at; records refer
  -- to all instructions throughout.
  induction rest generalizing position ms with
  | nil =>
      simp only [collect, verifying, List.filter_nil, List.mapM_nil, Outcome.pure_eq_ok,
        Except.ok.injEq, exists_eq_left', List.flatten_nil]
      exact eq_comm
  | cons ix rest ih =>
      rw [collect, verifying_cons]
      by_cases hprogram : ix.program = Program.passkeyVerifier
      · rw [if_pos hprogram, if_pos hprogram, List.mapM_cons]
        cases hfound : ofData ixs ix.data with
        | error fault => simp only [Outcome.error_bind, reduceCtorEq, false_and, exists_false]
        | ok found =>
            simp only [Outcome.map_eq_ok, ih, Outcome.bind_eq_ok, Except.ok.injEq, exists_eq_left',
              Outcome.pure_eq_ok]
            constructor
            · intro h
              rcases h with ⟨_, ⟨parts, hparts, rfl⟩, rfl⟩
              exact ⟨found :: parts, ⟨parts, hparts, rfl⟩, List.flatten_cons.symm⟩
            · intro h
              rcases h with ⟨_, ⟨parts, hparts, rfl⟩, rfl⟩
              exact ⟨parts.flatten, ⟨parts, hparts, rfl⟩, List.flatten_cons.symm⟩
      · rw [if_neg hprogram, if_neg hprogram, ih]

/-- The first instruction that refers to something missing is the one reported. -/
theorem collect_eq_error (position : Nat) (rest : List Instruction) (place : Nat)
    (fault : VerifyFault) (h : collect ixs position rest = .error (place, fault)) :
    ∃ offset, place = position + offset ∧ FirstOutside ixs rest offset := by
  induction rest generalizing position with
  | nil => exact absurd h (by simp only [collect, reduceCtorEq, not_false_eq_true])
  | cons ix rest ih =>
      -- If the error comes from behind this instruction, all is well here.
      have hlater (hhead : ix.program = Program.passkeyVerifier → ix.InBounds ixs)
          (hrest : collect ixs (position + 1) rest = .error (place, fault)) :
          ∃ offset, place = position + offset ∧ FirstOutside ixs (ix :: rest) offset := by
        rcases ih (position + 1) hrest with ⟨offset, hplace, hfirst⟩
        exact ⟨offset + 1, by omega, hfirst.cons ixs ix rest offset hhead⟩
      rw [collect] at h
      by_cases hprogram : ix.program = Program.passkeyVerifier
      · rw [if_pos hprogram] at h
        cases hfound : ofData ixs ix.data with
        | error fault' =>
            simp only [hfound, Except.error.injEq, Prod.mk.injEq] at h
            refine ⟨0, h.1.symm, [], ix, rest, rfl, rfl, hprogram, fun hin => ?_,
              List.forall_mem_nil _⟩
            rcases (ofData_isOk ixs ix).mpr hin with ⟨found, hok⟩
            rw [hfound] at hok
            exact absurd hok (by simp only [reduceCtorEq, not_false_eq_true])
        | ok found =>
            simp only [hfound, Outcome.map_eq_error] at h
            exact hlater (fun _ => (ofData_isOk ixs ix).mp ⟨found, hfound⟩) h
      · rw [if_neg hprogram] at h
        exact hlater (fun hc => absurd hc hprogram) h

end SignedMessage

-- A number that is below the number of instructions means the same instruction if
-- more of them follow.
theorem SignatureOffsets.Means.append (ixs more : List Instruction) (own : Bytes)
    (instruction : UInt16) (data : Bytes) (h : Means ixs own instruction data) :
    Means (ixs ++ more) own instruction data := by
  rcases h with hown | ⟨hother, ix, hix, hdata⟩
  · exact .inl hown
  · have hplace := (List.getElem?_eq_some_iff.mp hix).1
    exact .inr ⟨hother, ix, by rwa [List.getElem?_append_left hplace], hdata⟩

/-- References have the same meaning in a longer transaction. -/
theorem Instruction.Signs.append (ixs more : List Instruction) (ix : Instruction)
    (found : List SignedMessage) (h : ix.Signs ixs found) : ix.Signs (ixs ++ more) found := by
  refine ⟨h.nonempty, h.length_eq, fun place m hm => ?_⟩
  rcases h.leadsTo place m hm with ⟨o, hstands, hleads⟩
  rcases hleads.publicKey with ⟨keyData, hkey, hkeyStands⟩
  rcases hleads.message with ⟨data, hdata, hdataStands⟩
  exact ⟨o, hstands, ⟨keyData, hkey.append ixs more _ _ _, hkeyStands⟩,
    ⟨data, hdata.append ixs more _ _ _, hdataStands⟩, hleads.size, hleads.hash⟩

/-- A transaction carries what its instructions sign, one after the other. -/
theorem carriedMessages_eq_ok (ixs : List Instruction) (ms : List SignedMessage) :
    carriedMessages ixs = .ok ms ↔
      ∃ parts, List.Forall₂ (Instruction.Signs ixs) (verifying ixs) parts ∧
        ms = parts.flatten := by
  rw [carriedMessages, Outcome.mapError_eq_ok, signedMessages, SignedMessage.collect_eq_ok]
  simp only [Outcome.mapM_eq_ok, SignedMessage.ofData_eq_ok]

/-- A transaction is read exactly if all instructions that carry messages are within
    bounds. -/
theorem carriedMessages_isOk (ixs : List Instruction) :
    (∃ ms, carriedMessages ixs = .ok ms) ↔ ∀ ix ∈ verifying ixs, ix.InBounds ixs := by
  simp only [carriedMessages_eq_ok, ← SignedMessage.ofData_isOk, SignedMessage.ofData_eq_ok,
    ← Outcome.exists_forall₂]
  constructor
  · intro h
    rcases h with ⟨_, parts, hparts, _⟩
    exact ⟨parts, hparts⟩
  · intro h
    rcases h with ⟨parts, hparts⟩
    exact ⟨parts.flatten, parts, hparts, rfl⟩

/-- If a transaction is not read, the refusal is about the first instruction that is not
    within bounds. -/
theorem carriedMessages_eq_error (ixs : List Instruction) (r : Refusal)
    (h : carriedMessages ixs = .error r) :
    ∃ position fault, r = .malformedInstruction (.signatures position fault) ∧
      FirstOutside ixs ixs position := by
  rcases (Outcome.mapError_eq_error _ _ _).mp h with ⟨⟨place, fault⟩, hcollect, rfl⟩
  rcases SignedMessage.collect_eq_error ixs 0 ixs place fault hcollect with
    ⟨offset, hplace, hfirst⟩
  rw [Nat.zero_add] at hplace
  exact ⟨place, fault, rfl, hplace ▸ hfirst⟩

/-- A transaction carries as many messages as records. -/
theorem length_carriedMessages (ixs : List Instruction) (ms : List SignedMessage)
    (h : carriedMessages ixs = .ok ms) :
    ms.length = ((verifying ixs).map Instruction.signatureCount).sum := by
  rcases (carriedMessages_eq_ok ixs ms).mp h with ⟨parts, hparts, rfl⟩
  have hcounts : (verifying ixs).map Instruction.signatureCount = parts.map List.length := by
    rw [← List.forall₂_eq_eq_eq, List.forall₂_map_left_iff, List.forall₂_map_right_iff]
    exact hparts.imp fun _ _ hsigns => hsigns.length_eq.symm
  rw [List.length_flatten, hcounts]

/-- The messages of a transaction are the first messages of a longer one. -/
theorem carriedMessages_prefix (ixs more : List Instruction) (ms ms' : List SignedMessage)
    (h : carriedMessages ixs = .ok ms) (h' : carriedMessages (ixs ++ more) = .ok ms') :
    ms <+: ms' := by
  rcases (carriedMessages_eq_ok ixs ms).mp h with ⟨parts, hparts, rfl⟩
  -- Seen from the longer transaction, the first instructions have the same messages.
  have hfirst : (verifying ixs).mapM (fun ix => SignedMessage.ofData (ixs ++ more) ix.data) =
      .ok parts := by
    refine (Outcome.mapM_eq_ok _ _ _).mpr (hparts.imp fun ix found hsigns => ?_)
    exact (SignedMessage.ofData_eq_ok _ _ _).mpr (hsigns.append ixs more ix found)
  rw [carriedMessages, Outcome.mapError_eq_ok, signedMessages, SignedMessage.collect_eq_ok] at h'
  rcases h' with ⟨parts', hparts', rfl⟩
  rw [verifying, List.filter_append] at hparts'
  rcases (Outcome.mapM_append_eq_ok _ _ _ _).mp hparts' with ⟨first, others, hown, _, rfl⟩
  rw [← verifying, hfirst, Except.ok.injEq] at hown
  rw [List.flatten_append, hown]
  exact List.prefix_append _ _

/-- The messages of a transaction, for any instructions with any data. Extraction fails
    as malformed, for the first instruction that refers to something missing, or it
    returns the messages of all instructions that carry signatures, in order: as many as
    their first bytes say, each found where its record says. It succeeds exactly if every
    one of these instructions has data and nothing that it refers to is missing. More
    instructions behind a transaction add messages behind its messages, so a number that
    stood for one of these stands for the same one as before. -/
theorem carriedMessages_references (ixs : List Instruction) :
    (∀ r, carriedMessages ixs = .error r → r.name = "MalformedInstruction" ∧
      ∃ (position : Nat) (fault : VerifyFault), FirstOutside ixs ixs position ∧
        r.message = "Malformed instruction: " ++
          s!"secp256r1 verify instruction {position}: {fault.message}") ∧
    (∀ ms, carriedMessages ixs = .ok ms ↔
      ∃ parts, List.Forall₂ (Instruction.Signs ixs) (verifying ixs) parts ∧
        ms = parts.flatten) ∧
    (∀ ms, carriedMessages ixs = .ok ms →
      ms.length = ((verifying ixs).map Instruction.signatureCount).sum) ∧
    ((∃ ms, carriedMessages ixs = .ok ms) ↔ ∀ ix ∈ verifying ixs, ix.InBounds ixs) ∧
    ∀ more ms ms', carriedMessages ixs = .ok ms → carriedMessages (ixs ++ more) = .ok ms' →
      ms <+: ms' ∧ ∀ index < ms.length, ms'[index]? = ms[index]? := by
  refine ⟨fun r h => ?_, carriedMessages_eq_ok ixs, length_carriedMessages ixs,
    carriedMessages_isOk ixs, fun more ms ms' h h' => ?_⟩
  · rcases carriedMessages_eq_error ixs r h with ⟨position, fault, rfl, hfirst⟩
    exact ⟨rfl, position, fault, hfirst, rfl⟩
  · have hfront := carriedMessages_prefix ixs more ms ms' h h'
    refine ⟨hfront, fun index hindex => ?_⟩
    rw [List.prefix_iff_getElem?.mp hfront index hindex, List.getElem?_eq_getElem hindex]

/-- A key that stands in a later instruction, and an empty message at the very end of the
    data, under the number of the instruction itself. The instruction that is added has
    the same record; a byte more, and its message would be outside. -/
theorem carriedMessages_references_later :
    let carrier (size own : UInt16) : Instruction := ⟨Program.passkeyVerifier, [],
      1 :: 0 :: SignatureOffsets.form ⟨0, 0, 0, 1, 16, size, own⟩⟩
    let note : Instruction := ⟨Program.memo, [], List.replicate 33 2⟩
    let m : SignedMessage := ⟨Octets.replicate 33 2, [], Sha256.digest []⟩
    carriedMessages [carrier 0 0, note] = .ok [m] ∧
      carriedMessages ([carrier 0 0, note] ++ [carrier 0 0xFFFF]) = .ok [m, m] ∧
      [m, m][0]? = [m][0]? ∧
      ∃ r, carriedMessages ([carrier 0 0, note] ++ [carrier 1 0xFFFF]) = .error r ∧
        r.name = "MalformedInstruction" := by
  intro carrier note m
  have hone : carriedMessages [carrier 0 0, note] = .ok [m] := by decide +kernel
  have htwo : carriedMessages ([carrier 0 0, note] ++ [carrier 0 0xFFFF]) = .ok [m, m] := by
    decide +kernel
  have hout : carriedMessages ([carrier 0 0, note] ++ [carrier 1 0xFFFF]) =
      .error (.malformedInstruction (.signatures 2 .badOffset)) := by decide +kernel
  rcases carriedMessages_references [carrier 0 0, note] with ⟨_, _, _, _, hfront⟩
  have hsame := (hfront [carrier 0 0xFFFF] [m] [m, m] hone htwo).2 0 (by decide)
  rcases carriedMessages_references ([carrier 0 0, note] ++ [carrier 1 0xFFFF]) with ⟨herror, _⟩
  exact ⟨hone, htwo, hsame, _, hout, (herror _ hout).1⟩

end Cosigner
