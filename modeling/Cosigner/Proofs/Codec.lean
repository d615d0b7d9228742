import Cosigner.Codec
import Cosigner.Proofs.Outcome
import Mathlib.Algebra.Group.Nat.Defs

/-!
# What Codecs Accept

A layout is exact if reading undoes writing in the strongest sense: a byte
string reads as a value and a rest exactly if it is the form of the value with
the rest behind it. One half of this says that what is written is read back,
whatever follows. The other half says that there is no second spelling, since
whatever is read as a value has to be the form of that value.

Not every value has a form that can be read back. The length of a list is
written in a fixed number of bytes, and a longer list is written with a wrong
length. So a layout is exact for the values that fit, and being read implies
fitting.

Exactness is kept by every way of putting layouts together. A compound layout
is shown to be exact by following the expression that defines it, and no proof
has to look at bytes again.

## Main definitions

* `Codec.Exact`: A layout that accepts exactly the forms of the values that fit.
* `Codec.Total`: A layout of a fixed size that accepts any bytes.

## Theorems

* `Codec.Exact.imap`, `Codec.Exact.pair`: Compound layouts.
* `Codec.exact_octets`, `Codec.exact_word`: Blocks and numbers.
* `Codec.exact_flag`, `Codec.Exact.option`: Truth values and optional values.
* `Codec.exact_blob`, `Codec.Exact.listOf`: Byte strings and lists.
* `Codec.exact_text`: Texts, which have one spelling as bytes.
* `Codec.Exact.decodeAll_eq_ok`: Reading a whole input.
* `Codec.Exact.prefix_free`: No form of a value starts with another form.
* `Codec.Total.pair`, `Codec.Total.imap`: Compound layouts of a fixed size.
* `Codec.length_encode_listOf_le`: How long the form of a list can be.
-/

namespace Cosigner

/-- A number is read back from its bytes as far as they reach. -/
theorem ofLE_leBytes (width n : Nat) : ofLE (leBytes width n) = n % 256 ^ width := by
  induction width generalizing n with
  | zero => rw [leBytes, ofLE, Nat.pow_zero, Nat.mod_one]
  | succ width ih =>
      have hlow : (UInt8.ofNat n).toNat = n % 256 := UInt8.toNat_ofNat'
      rw [leBytes, ofLE, ih, hlow, Nat.pow_succ', Nat.mod_mul]

theorem ofLE_lt (bs : Bytes) : ofLE bs < 256 ^ bs.length := by
  induction bs with
  | nil => exact Nat.one_pos
  | cons b rest ih =>
      have hb := b.toNat_lt
      rw [ofLE, List.length_cons, Nat.pow_succ']
      omega

/-- A byte string is the form of the number that it spells. -/
theorem leBytes_ofLE (bs : Bytes) : leBytes bs.length (ofLE bs) = bs := by
  induction bs with
  | nil => rfl
  | cons b rest ih =>
      have hb := b.toNat_lt
      have hhigh : (b.toNat + 256 * ofLE rest) / 256 = ofLE rest := by omega
      have hlow : UInt8.ofNat (b.toNat + 256 * ofLE rest) = b := by
        rw [← UInt8.toNat_inj, UInt8.toNat_ofNat']
        omega
      rw [List.length_cons, ofLE, leBytes, hhigh, hlow, ih]

namespace Octets

-- Two byte strings of fixed length are equal if their bytes are.
theorem ext {n : Nat} (a b : Octets n) (h : a.toBytes = b.toBytes) : a = b := by
  cases a
  cases b
  simp only [mk.injEq]
  exact h

end Octets

-- Bytes are text exactly if they are the bytes of a text, and of one only.
theorem Utf8.decode_eq_ok (bs : Bytes) (s : String) : decode bs = .ok s ↔ bs = encode s := by
  unfold decode encode
  constructor
  · intro h
    by_cases hvalid : (ByteArray.mk bs.toArray).IsValidUTF8
    · rw [dif_pos hvalid, Except.ok.injEq] at h
      rw [← h]
      rfl
    · rw [dif_neg hvalid] at h
      exact absurd h (by simp only [reduceCtorEq, not_false_eq_true])
  · rintro rfl
    have hvalid : (ByteArray.mk s.toByteArray.data.toList.toArray).IsValidUTF8 := s.isValidUTF8
    rw [dif_pos hvalid]
    rfl

namespace Codec

variable {α β : Type}

/-- A layout that accepts exactly the forms of the values that fit, whatever
    follows them. -/
def Exact (c : Codec α) (Fits : α → Prop) : Prop :=
  ∀ bs a rest, c.decode bs = .ok (a, rest) ↔ Fits a ∧ bs = c.encode a ++ rest

/-- A block takes its length from the front of the input. -/
theorem exact_octets (n : Nat) : (octets n).Exact fun _ => True := by
  intro bs o rest
  simp only [octets, true_and]
  constructor
  · intro h
    by_cases hlength : (bs.take n).length = n
    · rw [dif_pos hlength, Except.ok.injEq, Prod.mk.injEq] at h
      rw [← h.1, ← h.2]
      exact (List.take_append_drop n bs).symm
    · rw [dif_neg hlength] at h
      exact absurd h (by simp only [reduceCtorEq, not_false_eq_true])
  · intro h
    have htake : bs.take n = o.toBytes := by
      rw [h, List.take_left' o.length_eq]
    have hdrop : bs.drop n = rest := by
      rw [h, List.drop_left' o.length_eq]
    have hlength : (bs.take n).length = n := by
      rw [htake, o.length_eq]
    rw [dif_pos hlength, Except.ok.injEq, Prod.mk.injEq]
    exact ⟨Octets.ext _ _ htake, hdrop⟩

/-- Reading and writing through another type keeps a layout exact, if the values
    that fit on either side are the same. -/
theorem Exact.imap {c : Codec α} {P : α → Prop} (h : c.Exact P) (into : α → β) (back : β → α)
    (Q : β → Prop) (hinto : ∀ a, P a → Q (into a) ∧ back (into a) = a)
    (hback : ∀ b, Q b → P (back b) ∧ into (back b) = b) : (c.imap into back).Exact Q := by
  intro bs b rest
  simp only [Codec.imap, Outcome.bind_eq_ok, Outcome.pure_eq_ok, Prod.exists, Prod.mk.injEq, h bs]
  constructor
  · intro hread
    rcases hread with ⟨a, rest', ⟨hP, hbs⟩, rfl, rfl⟩
    rcases hinto a hP with ⟨hQ, heq⟩
    exact ⟨hQ, by rw [heq, hbs]⟩
  · intro hform
    rcases hform with ⟨hQ, hbs⟩
    rcases hback b hQ with ⟨hP, heq⟩
    exact ⟨back b, rest, ⟨hP, hbs⟩, heq, rfl⟩

/-- One layout after another. -/
theorem Exact.pair {a : Codec α} {b : Codec β} {P : α → Prop} {Q : β → Prop} (ha : a.Exact P)
    (hb : b.Exact Q) : (a.pair b).Exact fun p => P p.1 ∧ Q p.2 := by
  intro bs p rest
  simp only [Codec.pair, Outcome.bind_eq_ok, Outcome.pure_eq_ok, Prod.exists, Prod.mk.injEq,
    ha bs]
  constructor
  · intro h
    rcases h with ⟨x, mid, ⟨hP, hbs⟩, y, rest', hy, rfl, rfl⟩
    rcases (hb _ _ _).mp hy with ⟨hQ, hmid⟩
    exact ⟨⟨hP, hQ⟩, by rw [hbs, hmid, List.append_assoc]⟩
  · intro h
    rcases h with ⟨⟨hP, hQ⟩, hbs⟩
    rw [List.append_assoc] at hbs
    exact ⟨p.1, b.encode p.2 ++ rest, ⟨hP, hbs⟩, p.2, rest, (hb _ _ _).mpr ⟨hQ, rfl⟩, rfl, rfl⟩

/-- A number in a fixed number of bytes. The numbers that fit are those that
    this many bytes can spell. -/
theorem exact_word (width : Nat) (ofNat : Nat → α) (toNat : α → Nat) (Fits : α → Prop)
    (hof : ∀ n < 256 ^ width, Fits (ofNat n) ∧ toNat (ofNat n) = n)
    (hto : ∀ a, Fits a → toNat a < 256 ^ width ∧ ofNat (toNat a) = a) :
    (word width ofNat toNat).Exact Fits := by
  refine (exact_octets width).imap _ _ Fits (fun o _ => ?_) (fun a ha => ⟨trivial, ?_⟩)
  · have hlt : ofLE o.toBytes < 256 ^ width := by
      have hlt := ofLE_lt o.toBytes
      rwa [o.length_eq] at hlt
    rcases hof _ hlt with ⟨hfits, heq⟩
    have hform := leBytes_ofLE o.toBytes
    rw [o.length_eq] at hform
    exact ⟨hfits, Octets.ext _ _ (by simp only [heq, hform])⟩
  · rcases hto a ha with ⟨hlt, heq⟩
    rw [ofLE_leBytes, Nat.mod_eq_of_lt hlt, heq]

-- Every number of the right width can be written, so nothing is asked of it.
theorem exact_u8 : u8.Exact fun _ => True :=
  exact_word 1 UInt8.ofNat UInt8.toNat _ (fun _ h => ⟨trivial, UInt8.toNat_ofNat_of_lt' h⟩)
    fun b _ => ⟨b.toNat_lt, UInt8.ofNat_toNat⟩

theorem exact_u16 : u16.Exact fun _ => True :=
  exact_word 2 UInt16.ofNat UInt16.toNat _ (fun _ h => ⟨trivial, UInt16.toNat_ofNat_of_lt' h⟩)
    fun b _ => ⟨b.toNat_lt, UInt16.ofNat_toNat⟩

theorem exact_u32 : u32.Exact fun _ => True :=
  exact_word 4 UInt32.ofNat UInt32.toNat _ (fun _ h => ⟨trivial, UInt32.toNat_ofNat_of_lt' h⟩)
    fun b _ => ⟨b.toNat_lt, UInt32.ofNat_toNat⟩

theorem exact_u64 : u64.Exact fun _ => True :=
  exact_word 8 UInt64.ofNat UInt64.toNat _ (fun _ h => ⟨trivial, UInt64.toNat_ofNat_of_lt' h⟩)
    fun b _ => ⟨b.toNat_lt, UInt64.ofNat_toNat⟩

theorem exact_u128 : u128.Exact fun _ => True :=
  exact_word 16 (BitVec.ofNat 128) BitVec.toNat _
    (fun _ h => ⟨trivial, (BitVec.toNat_ofNat _ _).trans (Nat.mod_eq_of_lt h)⟩)
    fun b _ => ⟨b.isLt, BitVec.ofNat_toNat _ b⟩

-- A count is a plain number, so it has to fit.
theorem exact_count (width : Nat) : (count width).Exact (· < 256 ^ width) :=
  exact_word width id id _ (fun _ h => ⟨h, rfl⟩) fun _ h => ⟨h, rfl⟩

/-- A flag has two spellings out of 256. -/
theorem exact_flag : flag.Exact fun _ => True := by
  intro bs b rest
  simp only [flag, Outcome.bind_eq_ok, Prod.exists, exact_u8 bs, true_and]
  constructor
  · intro h
    rcases h with ⟨byte, rest', hbs, h⟩
    by_cases hzero : byte = 0
    · rw [if_pos hzero, Outcome.pure_eq_ok, Prod.mk.injEq] at h
      rw [hbs, hzero, ← h.1, ← h.2]
      rfl
    · rw [if_neg hzero, Outcome.throw_eq, Outcome.ite_else_error_eq_ok, Outcome.pure_eq_ok,
        Prod.mk.injEq] at h
      rw [hbs, h.1, ← h.2.1, ← h.2.2]
      rfl
  · intro h
    cases b with
    | false => exact ⟨0, rest, h, rfl⟩
    | true => exact ⟨1, rest, h, rfl⟩

/-- A value that may be absent. -/
theorem Exact.option {c : Codec α} {P : α → Prop} (hc : c.Exact P) :
    c.option.Exact fun a? => ∀ a ∈ a?, P a := by
  intro bs a? rest
  simp only [Codec.option, Outcome.bind_eq_ok, Prod.exists, exact_u8 bs, true_and]
  constructor
  · intro h
    rcases h with ⟨byte, rest', hbs, h⟩
    by_cases hzero : byte = 0
    · rw [if_pos hzero, Outcome.pure_eq_ok, Prod.mk.injEq] at h
      rw [hbs, hzero, ← h.1, ← h.2]
      exact ⟨fun a ha => absurd ha (Option.not_mem_none a), rfl⟩
    · rw [if_neg hzero, Outcome.throw_eq, Outcome.ite_else_error_eq_ok] at h
      rcases h with ⟨hone, h⟩
      rcases (Outcome.bind_eq_ok _ _ _).mp h with ⟨⟨a, rest''⟩, hread, h⟩
      rw [Outcome.pure_eq_ok, Prod.mk.injEq] at h
      rcases (hc _ _ _).mp hread with ⟨hP, hform⟩
      rw [hbs, hone, hform, ← h.1, ← h.2]
      refine ⟨fun a' ha' => ?_, rfl⟩
      rwa [← Option.mem_some_iff.mp ha']
  · intro h
    rcases h with ⟨hP, hbs⟩
    cases a? with
    | none => exact ⟨0, rest, hbs, rfl⟩
    | some a =>
        have hread := (hc (c.encode a ++ rest) a rest).mpr ⟨hP a rfl, rfl⟩
        refine ⟨1, c.encode a ++ rest, hbs, ?_⟩
        rw [if_neg (by decide), if_pos rfl, hread]
        rfl

/-- Values in a row. -/
theorem Exact.decodeMany_eq_ok {c : Codec α} {P : α → Prop} (hc : c.Exact P) (n : Nat)
    (bs : Bytes) (as : List α) (rest : Bytes) :
    c.decodeMany n bs = .ok (as, rest) ↔
      as.length = n ∧ (∀ a ∈ as, P a) ∧ bs = as.flatMap c.encode ++ rest := by
  induction n generalizing bs as rest with
  | zero =>
      rw [decodeMany, Except.ok.injEq, Prod.mk.injEq, List.length_eq_zero_iff]
      constructor
      · intro h
        rcases h with ⟨rfl, rfl⟩
        exact ⟨rfl, fun a ha => absurd ha List.not_mem_nil, rfl⟩
      · intro h
        rcases h with ⟨rfl, _, hbs⟩
        exact ⟨rfl, hbs⟩
  | succ n ih =>
      simp only [decodeMany, Outcome.bind_eq_ok, Outcome.pure_eq_ok, Prod.exists, Prod.mk.injEq,
        hc bs, ih]
      constructor
      · intro h
        rcases h with ⟨a, mid, ⟨hP, hbs⟩, others, rest', ⟨hlength, hall, hmid⟩, rfl, rfl⟩
        refine ⟨by rw [List.length_cons, hlength], List.forall_mem_cons.mpr ⟨hP, hall⟩, ?_⟩
        rw [hbs, hmid, List.flatMap_cons, List.append_assoc]
      · intro h
        rcases h with ⟨hlength, hall, hbs⟩
        cases as with
        | nil => exact absurd hlength.symm (Nat.succ_ne_zero n)
        | cons a others =>
            rw [List.forall_mem_cons] at hall
            rw [List.flatMap_cons, List.append_assoc] at hbs
            exact ⟨a, _, ⟨hall.1, hbs⟩, others, rest, ⟨Nat.succ.inj hlength, hall.2, rfl⟩, rfl,
              rfl⟩

/-- A list fits if its length does and all its entries do. -/
theorem Exact.listOf {c : Codec α} {P : α → Prop} (hc : c.Exact P) (width : Nat) :
    (c.listOf width).Exact fun as => as.length < 256 ^ width ∧ ∀ a ∈ as, P a := by
  intro bs as rest
  simp only [Codec.listOf, Outcome.bind_eq_ok, Prod.exists, exact_count width bs,
    hc.decodeMany_eq_ok]
  constructor
  · intro h
    rcases h with ⟨n, mid, ⟨hn, hbs⟩, rfl, hall, hmid⟩
    exact ⟨⟨hn, hall⟩, by rw [hbs, hmid, List.append_assoc]⟩
  · intro h
    rcases h with ⟨⟨hn, hall⟩, hbs⟩
    rw [List.append_assoc] at hbs
    exact ⟨as.length, _, ⟨hn, hbs⟩, rfl, hall, rfl⟩

/-- A byte string fits if its length does. -/
theorem exact_blob (width : Nat) : (blob width).Exact fun as => as.length < 256 ^ width := by
  intro bs as rest
  simp only [blob, Outcome.bind_eq_ok, Outcome.pure_eq_ok, Prod.exists, Prod.mk.injEq,
    exact_count width bs]
  constructor
  · intro h
    rcases h with ⟨n, mid, ⟨hn, hbs⟩, block, rest', hblock, rfl, rfl⟩
    rw [(exact_octets n mid block rest').mp hblock |>.2] at hbs
    rw [block.length_eq, List.append_assoc]
    exact ⟨hn, hbs⟩
  · intro h
    rcases h with ⟨hn, hbs⟩
    rw [List.append_assoc] at hbs
    exact ⟨as.length, as ++ rest, ⟨hn, hbs⟩, ⟨as, rfl⟩, rest,
      (exact_octets as.length _ _ _).mpr ⟨trivial, rfl⟩, rfl, rfl⟩

-- Entries of any size fit, so only their number counts.
theorem Exact.listOf_of_all {c : Codec α} (hc : c.Exact fun _ => True) (width : Nat) :
    (c.listOf width).Exact fun as => as.length < 256 ^ width := by
  intro bs as rest
  rw [hc.listOf width]
  constructor
  · intro h
    exact ⟨h.1.1, h.2⟩
  · intro h
    exact ⟨⟨h.1, fun _ _ => trivial⟩, h.2⟩

/-- A text fits if the number of its bytes does. -/
theorem exact_text : text.Exact fun s => (Utf8.encode s).length < 256 ^ 4 := by
  intro bs s rest
  simp only [text, Outcome.bind_eq_ok, Prod.exists, exact_blob 4 bs]
  constructor
  · intro h
    rcases h with ⟨block, rest', ⟨hlength, hbs⟩, h⟩
    cases hread : Utf8.decode block with
    | error fault =>
        simp only [hread, Outcome.throw_eq, reduceCtorEq] at h
    | ok s' =>
        simp only [hread, Outcome.pure_eq_ok, Prod.mk.injEq] at h
        rcases h with ⟨rfl, rfl⟩
        have hblock := (Utf8.decode_eq_ok block s').mp hread
        rw [hblock] at hlength hbs
        exact ⟨hlength, hbs⟩
  · intro h
    rcases h with ⟨hlength, hbs⟩
    refine ⟨Utf8.encode s, rest, ⟨hlength, hbs⟩, ?_⟩
    rw [(Utf8.decode_eq_ok _ s).mpr rfl]
    rfl

/-- A form shows where it ends: two forms that begin the same input are the same,
    and so are the values and what follows them. -/
theorem Exact.prefix_free {c : Codec α} {P : α → Prop} (hc : c.Exact P) (a b : α) (ha : P a)
    (hb : P b) (s t : Bytes) (h : c.encode a ++ s = c.encode b ++ t) : a = b ∧ s = t := by
  have hreadA := (hc (c.encode a ++ s) a s).mpr ⟨ha, rfl⟩
  have hreadB := (hc (c.encode a ++ s) b t).mpr ⟨hb, h⟩
  rw [hreadA, Except.ok.injEq, Prod.mk.injEq] at hreadB
  exact hreadB

/-- A whole input reads as a value exactly if it is the form of the value. -/
theorem Exact.decodeAll_eq_ok {c : Codec α} {P : α → Prop} (hc : c.Exact P) (bs : Bytes) (a : α) :
    c.decodeAll bs = .ok a ↔ P a ∧ bs = c.encode a := by
  simp only [decodeAll, Outcome.bind_eq_ok, Prod.exists, hc bs, List.isEmpty_iff,
    Outcome.throw_eq, Outcome.ite_else_error_eq_ok, Outcome.pure_eq_ok]
  constructor
  · intro h
    rcases h with ⟨a', rest, ⟨hP, hbs⟩, rfl, rfl⟩
    rw [List.append_nil] at hbs
    exact ⟨hP, hbs⟩
  · intro h
    rcases h with ⟨hP, hbs⟩
    exact ⟨a, [], ⟨hP, by rw [hbs, List.append_nil]⟩, rfl, rfl⟩

/-- A layout that reads any bytes, as long as there are `size` of them, and reads no
    more than these. -/
def Total (c : Codec α) (size : Nat) : Prop :=
  ∀ bs, size ≤ bs.length → ∃ a rest, c.decode bs = .ok (a, rest) ∧ bs.length = size + rest.length

-- What cannot be malformed, and how many bytes it takes.
theorem total_octets (n : Nat) : (octets n).Total n := by
  intro bs hsize
  have htake : (bs.take n).length = n := List.length_take_of_le hsize
  refine ⟨⟨bs.take n, htake⟩, bs.drop n, dif_pos htake, ?_⟩
  rw [List.length_drop]
  omega

theorem Total.imap {c : Codec α} {size : Nat} (hc : c.Total size) (into : α → β) (back : β → α) :
    (c.imap into back).Total size := by
  intro bs hsize
  rcases hc bs hsize with ⟨a, rest, hread, hrest⟩
  exact ⟨into a, rest, (Outcome.bind_eq_ok _ _ _).mpr ⟨(a, rest), hread, rfl⟩, hrest⟩

theorem Total.pair {a : Codec α} {b : Codec β} {sizeA sizeB : Nat} (ha : a.Total sizeA)
    (hb : b.Total sizeB) : (a.pair b).Total (sizeA + sizeB) := by
  intro bs hsize
  rcases ha bs (by omega) with ⟨x, mid, hx, hmid⟩
  rcases hb mid (by omega) with ⟨y, rest, hy, hrest⟩
  refine ⟨(x, y), rest, (Outcome.bind_eq_ok _ _ _).mpr ⟨(x, mid), hx, ?_⟩, by omega⟩
  exact (Outcome.bind_eq_ok _ _ _).mpr ⟨(y, rest), hy, rfl⟩

theorem total_word (width : Nat) (ofNat : Nat → α) (toNat : α → Nat) :
    (word width ofNat toNat).Total width :=
  (total_octets width).imap _ _

theorem total_u16 : u16.Total 2 := total_word 2 _ _

/-- Bytes of the right number read as a whole. -/
theorem Total.decodeAll_isOk {c : Codec α} {size : Nat} (hc : c.Total size) (bs : Bytes)
    (h : bs.length = size) : ∃ a, c.decodeAll bs = .ok a := by
  rcases hc bs (Nat.le_of_eq h.symm) with ⟨a, rest, hread, hrest⟩
  have hend : rest = [] := List.length_eq_zero_iff.mp (by omega)
  refine ⟨a, (Outcome.bind_eq_ok _ _ _).mpr ⟨(a, rest), hread, ?_⟩⟩
  simp only [hend, List.isEmpty_nil, if_true, Outcome.pure_eq_ok]

theorem length_encode_word (width : Nat) (ofNat : Nat → α) (toNat : α → Nat) (a : α) :
    ((word width ofNat toNat).encode a).length = width :=
  length_leBytes width (toNat a)

-- Sizes of what is written, for the lengths of whole messages.
theorem encode_u8 (b : UInt8) : u8.encode b = [b] := by
  have hbyte : UInt8.ofNat b.toNat = b := UInt8.ofNat_toNat
  simp only [u8, word, imap, octets, leBytes, hbyte]

theorem length_encode_u8 (b : UInt8) : (u8.encode b).length = 1 :=
  length_encode_word 1 _ _ b

theorem length_encode_octets {n : Nat} (o : Octets n) : ((octets n).encode o).length = n :=
  o.length_eq

theorem length_encode_blob (width : Nat) (as : Bytes) :
    ((blob width).encode as).length = width + as.length := by
  simp only [blob, count, List.length_append, length_encode_word]

/-- A list whose entries are short is not long. -/
theorem length_encode_listOf_le (width : Nat) (c : Codec α) (as : List α) (bound : Nat)
    (h : ∀ a ∈ as, (c.encode a).length ≤ bound) :
    ((c.listOf width).encode as).length ≤ width + as.length * bound := by
  have hentries : (as.flatMap c.encode).length ≤ as.length * bound := by
    induction as with
    | nil => exact Nat.zero_le _
    | cons a rest ih =>
        rw [List.forall_mem_cons] at h
        have hrest := ih h.2
        rw [List.flatMap_cons, List.length_append, List.length_cons, Nat.succ_mul]
        omega
  simp only [listOf, count, List.length_append, length_encode_word]
  omega

end Codec

end Cosigner
