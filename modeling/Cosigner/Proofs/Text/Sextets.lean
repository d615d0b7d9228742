import Cosigner.Text.Base64
import Mathlib.Algebra.Group.Nat.Defs
import Mathlib.Data.List.Induction

/-!
# Bits in Groups of Six

Base 64 takes the bits of bytes, eight of each, and deals them out again, six to each
symbol. That is all there is to it, but the functions that do it do not deal with bits.
They go through groups of three bytes and four values, and the end of a text takes one
of three shapes. So bits are brought in here as a means of comparison: a byte string and
a list of values belong together if they have the same bits, and if what the last value
has over is fewer than six zeros.

That the two determine each other then needs no look at groups any more. Fewer than six
bits are over, so the number of values fixes the number of bytes and the other way
round, and equal bits in groups of equal width are equal groups.

Whatever the values are, the bytes that are made of them take their bits from the front.
The bits that are left over decide whether the values belong to any bytes at all.

## Main definitions

* `Base64.bits`, `Base64.spread`, `Base64.byteBits`: Numbers and bytes as bits.
* `Base64.unusedBits`: The bits of values that make no whole byte.
* `Base64.Regroups`: Values and bytes with the same bits.

## Theorems

* `Base64.bits_append`, `Base64.spread_eq_bits`: Numbers in a row are one number.
* `Base64.bits_inj`, `Base64.spread_inj`: Equal bits are of equal numbers.
* `Base64.regroups_sextets`: Values that are made of bytes have their bits.
* `Base64.spread_eq_bytes`: Bytes are made of the bits in front.
* `Base64.unusedBits_concat`: The bits that are over are those of the last value.
* `Base64.Regroups.eq_bytes`, `Base64.Regroups.eq_sextets`: Each determines the other.
* `Base64.regroups_iff`: Which values belong to which bytes.
-/

namespace Cosigner

namespace Base64

/-- The low `width` bits of a number, the highest of them first. -/
def bits : Nat → Nat → List Bool
  | 0, _ => []
  | width + 1, n => n.testBit width :: bits width n

/-- The bits of numbers in a row, `width` bits of each. -/
def spread (width : Nat) (ns : List Nat) : List Bool :=
  ns.flatMap (bits width)

/-- The bits of a byte string. -/
def byteBits (bs : Bytes) : List Bool :=
  spread 8 (bs.map UInt8.toNat)

/-- The bits of values behind the last whole byte. -/
def unusedBits (values : List Nat) : List Bool :=
  (spread 6 values).drop (8 * (6 * values.length / 8))

/-- Values of six bits each that have the bits of a byte string, with fewer than six
    zeros behind them. -/
structure Regroups (values : List Nat) (bs : Bytes) : Prop where
  small : ∀ v ∈ values, v < 64
  sameBits : ∃ spare < 6, spread 6 values = byteBits bs ++ List.replicate spare false

-- Bits, counted.
@[simp] theorem length_bits (width n : Nat) : (bits width n).length = width := by
  induction width with
  | zero => rfl
  | succ width ih => rw [bits, List.length_cons, ih]

@[simp] theorem length_spread (width : Nat) (ns : List Nat) :
    (spread width ns).length = width * ns.length := by
  induction ns with
  | nil => rfl
  | cons n ns ih =>
      rw [spread, List.flatMap_cons, List.length_append, length_bits, List.length_cons,
        Nat.mul_succ, Nat.add_comm]
      rw [spread] at ih
      rw [ih]

@[simp] theorem length_byteBits (bs : Bytes) : (byteBits bs).length = 8 * bs.length := by
  rw [byteBits, length_spread, List.length_map]

-- Numbers side by side have their bits side by side.
theorem spread_append (width : Nat) (ns ms : List Nat) :
    spread width (ns ++ ms) = spread width ns ++ spread width ms :=
  List.flatMap_append

-- The bits of a number are its binary digits below the width, and nothing but them.
theorem bits_congr (width n m : Nat) (h : ∀ i < width, n.testBit i = m.testBit i) :
    bits width n = bits width m := by
  induction width with
  | zero => rfl
  | succ width ih =>
      rw [bits, bits, h width (Nat.lt_succ_self width),
        ih fun i hi => h i (Nat.lt_succ_of_lt hi)]

theorem testBit_of_bits_eq (width n m : Nat) (h : bits width n = bits width m) (i : Nat)
    (hi : i < width) : n.testBit i = m.testBit i := by
  induction width with
  | zero => exact absurd hi (Nat.not_lt_zero i)
  | succ width ih =>
      rw [bits, bits, List.cons.injEq] at h
      rcases Nat.lt_succ_iff_lt_or_eq.mp hi with hlt | rfl
      · exact ih h.2 hlt
      · exact h.1

/-- Numbers of a width are told apart by their bits. -/
theorem bits_inj (width n m : Nat) (hn : n < 2 ^ width) (hm : m < 2 ^ width)
    (h : bits width n = bits width m) : n = m := by
  refine Nat.eq_of_testBit_eq fun i => ?_
  by_cases hi : i < width
  · exact testBit_of_bits_eq width n m h i hi
  · have hpow : 2 ^ width ≤ 2 ^ i := Nat.pow_le_pow_right Nat.two_pos (Nat.le_of_not_lt hi)
    rw [Nat.testBit_lt_two_pow (Nat.lt_of_lt_of_le hn hpow),
      Nat.testBit_lt_two_pow (Nat.lt_of_lt_of_le hm hpow)]

/-- The highest bits stand in front, so what is dropped is cut off from above. -/
theorem drop_bits (width n count : Nat) : (bits width n).drop count = bits (width - count) n := by
  induction width generalizing count with
  | zero => rw [Nat.zero_sub, bits, List.drop_nil]
  | succ width ih =>
      cases count with
      | zero => rfl
      | succ count => rw [bits, List.drop_succ_cons, ih, Nat.succ_sub_succ]

theorem bits_mod (width n : Nat) : bits width (n % 2 ^ width) = bits width n := by
  refine bits_congr width _ _ fun i hi => ?_
  rw [Nat.testBit_mod_two_pow, decide_eq_true hi, Bool.true_and]

theorem bits_zero (width : Nat) : bits width 0 = List.replicate width false := by
  induction width with
  | zero => rfl
  | succ width ih => rw [bits, ih, Nat.zero_testBit, List.replicate_succ]

/-- The low bits of a number are zeros exactly if a power of two divides it. -/
theorem bits_eq_zeros (width n : Nat) :
    (∀ bit ∈ bits width n, bit = false) ↔ n % 2 ^ width = 0 := by
  constructor
  · intro h
    have hzeros := List.eq_replicate_of_mem h
    rw [length_bits, ← bits_zero, ← bits_mod] at hzeros
    exact bits_inj width _ _ (Nat.mod_lt _ (Nat.two_pow_pos width)) (Nat.two_pow_pos width) hzeros
  · intro h bit hbit
    rw [← bits_mod, h, bits_zero] at hbit
    exact List.eq_of_mem_replicate hbit

/-- Two numbers in a row are one number. -/
theorem bits_append (high low x y : Nat) (hy : y < 2 ^ low) :
    bits high x ++ bits low y = bits (high + low) (x * 2 ^ low + y) := by
  rw [Nat.mul_comm]
  induction high with
  | zero =>
      rw [bits, List.nil_append, Nat.zero_add]
      refine bits_congr low _ _ fun i hi => ?_
      rw [Nat.testBit_two_pow_mul_add x hy, if_pos hi]
  | succ high ih =>
      have hplace : ¬ high + low < low := Nat.not_lt_of_le (Nat.le_add_left low high)
      rw [bits, List.cons_append, ih, Nat.succ_add, bits, Nat.testBit_two_pow_mul_add x hy,
        if_neg hplace, Nat.add_sub_cancel]

/-- Numbers in a row are one number. -/
theorem spread_eq_bits (width : Nat) (ns : List Nat) (h : ∀ n ∈ ns, n < 2 ^ width) :
    spread width ns = bits (width * ns.length) (ns.foldl (fun m n => m * 2 ^ width + n) 0) := by
  induction ns using List.reverseRecOn with
  | nil => rfl
  | append_singleton ns n ih =>
      rw [List.forall_mem_append, List.forall_mem_singleton] at h
      rw [spread_append, ih h.1, List.foldl_append, List.length_append, List.length_singleton,
        Nat.mul_add, Nat.mul_one, List.foldl_cons, List.foldl_nil, ← bits_append _ _ _ _ h.2]
      rw [spread, List.flatMap_singleton]

/-- Equal bits in groups of equal width are equal groups. -/
theorem spread_inj (width : Nat) (ns ms : List Nat) (hns : ∀ n ∈ ns, n < 2 ^ width)
    (hms : ∀ m ∈ ms, m < 2 ^ width) (hlength : ns.length = ms.length)
    (h : spread width ns = spread width ms) : ns = ms := by
  induction ns generalizing ms with
  | nil => exact (List.length_eq_zero_iff.mp hlength.symm).symm
  | cons n ns ih =>
      cases ms with
      | nil => exact absurd hlength (Nat.succ_ne_zero _)
      | cons m ms =>
          rw [List.forall_mem_cons] at hns hms
          rw [spread, spread, List.flatMap_cons, List.flatMap_cons] at h
          rcases List.append_inj h (by rw [length_bits, length_bits]) with ⟨hhead, htail⟩
          rw [bits_inj width n m hns.1 hms.1 hhead,
            ih ms hns.2 hms.2 (Nat.succ.inj hlength) htail]

theorem lt_of_mem_toNat (bs : Bytes) : ∀ n ∈ bs.map UInt8.toNat, n < 256 := by
  intro n hn
  rcases List.mem_map.mp hn with ⟨b, _, rfl⟩
  exact b.toNat_lt

/-- Byte strings of one length are told apart by their bits. -/
theorem byteBits_inj (bs bs' : Bytes) (hlength : bs.length = bs'.length)
    (h : byteBits bs = byteBits bs') : bs = bs' := by
  have hvalues := spread_inj 8 _ _ (lt_of_mem_toNat bs) (lt_of_mem_toNat bs')
    (by rw [List.length_map, List.length_map, hlength]) h
  exact (List.map_inj_right fun _ _ => UInt8.toNat_inj.mp).mp hvalues

-- Groups of values and of bytes that are the same number, in the three shapes that they
-- have. The values of a short group may have bits over.
section Groups

variable (a b c d x y z spare : Nat)

-- A group is regrouped by its number: four symbols and three bytes that make up the
-- same number have the same bits. In a shorter group some bits are over at the end.
theorem spread_four (hvalues : ∀ v ∈ [a, b, c, d], v < 64) (hbytes : ∀ n ∈ [x, y, z], n < 256)
    (h : ((a * 64 + b) * 64 + c) * 64 + d = (x * 256 + y) * 256 + z) :
    spread 6 [a, b, c, d] = spread 8 [x, y, z] := by
  rw [spread_eq_bits 6 _ hvalues, spread_eq_bits 8 _ hbytes]
  refine congrArg₂ bits rfl ?_
  simp only [List.foldl_cons, List.foldl_nil]
  omega

theorem spread_three (hvalues : ∀ v ∈ [a, b, c], v < 64) (hbytes : ∀ n ∈ [x, y], n < 256)
    (hspare : spare < 4) (h : (a * 64 + b) * 64 + c = (x * 256 + y) * 4 + spare) :
    spread 6 [a, b, c] = spread 8 [x, y] ++ bits 2 spare := by
  rw [spread_eq_bits 6 _ hvalues, spread_eq_bits 8 _ hbytes, bits_append _ 2 _ _ hspare]
  refine congrArg₂ bits rfl ?_
  simp only [List.foldl_cons, List.foldl_nil]
  omega

theorem spread_two (hvalues : ∀ v ∈ [a, b], v < 64) (hbytes : ∀ n ∈ [x], n < 256)
    (hspare : spare < 16) (h : a * 64 + b = x * 16 + spare) :
    spread 6 [a, b] = spread 8 [x] ++ bits 4 spare := by
  rw [spread_eq_bits 6 _ hvalues, spread_eq_bits 8 _ hbytes, bits_append _ 4 _ _ hspare]
  refine congrArg₂ bits rfl ?_
  simp only [List.foldl_cons, List.foldl_nil]
  omega

end Groups

theorem lt_of_mem_sextets (bs : Bytes) : ∀ v ∈ sextets bs, v < 64 := by
  induction bs using sextets.induct with
  | case1 x y z rest ih =>
      have hx := x.toNat_lt
      have hy := y.toNat_lt
      have hz := z.toNat_lt
      rw [sextets]
      simp only [List.forall_mem_cons]
      exact ⟨by omega, by omega, by omega, by omega, ih⟩
  | case2 x y =>
      have hx := x.toNat_lt
      have hy := y.toNat_lt
      rw [sextets]
      simp only [List.forall_mem_cons, List.not_mem_nil, false_imp_iff, implies_true, and_true]
      exact ⟨by omega, by omega, by omega⟩
  | case3 x =>
      have hx := x.toNat_lt
      rw [sextets]
      simp only [List.forall_mem_cons, List.not_mem_nil, false_imp_iff, implies_true, and_true]
      exact ⟨by omega, by omega⟩
  | case4 => exact List.forall_mem_nil _

/-- Values that are made of bytes have their bits. -/
theorem regroups_sextets (bs : Bytes) : Regroups (sextets bs) bs where
  small := lt_of_mem_sextets bs
  sameBits := by
    induction bs using sextets.induct with
    | case1 x y z rest ih =>
        rcases ih with ⟨spare, hspare, hrest⟩
        have hx := x.toNat_lt
        have hy := y.toNat_lt
        have hz := z.toNat_lt
        have hgroup : spread 6 (sextets [x, y, z]) = byteBits [x, y, z] :=
          spread_four _ _ _ _ _ _ _ (lt_of_mem_sextets [x, y, z]) (lt_of_mem_toNat [x, y, z])
            (by omega)
        refine ⟨spare, hspare, ?_⟩
        calc spread 6 (sextets (x :: y :: z :: rest))
            = spread 6 (sextets [x, y, z] ++ sextets rest) := rfl
          _ = byteBits [x, y, z] ++ (byteBits rest ++ List.replicate spare false) := by
              rw [spread_append, hgroup, hrest]
          _ = byteBits (x :: y :: z :: rest) ++ List.replicate spare false :=
              (List.append_assoc _ _ _).symm
    | case2 x y =>
        have hx := x.toNat_lt
        have hy := y.toNat_lt
        exact ⟨2, by decide, spread_three _ _ _ _ _ 0 (lt_of_mem_sextets [x, y])
          (lt_of_mem_toNat [x, y]) (by decide) (by omega)⟩
    | case3 x =>
        have hx := x.toNat_lt
        exact ⟨4, by decide, spread_two _ _ _ 0 (lt_of_mem_sextets [x]) (lt_of_mem_toNat [x])
          (by decide) (by omega)⟩
    | case4 => exact ⟨0, by decide, rfl⟩

-- The one shape that is left when no byte can be made.
theorem length_le_one (values : List Nat)
    (hfour : ∀ a b c d rest, values = a :: b :: c :: d :: rest → False)
    (hthree : ∀ a b c, values = [a, b, c] → False) (htwo : ∀ a b, values = [a, b] → False) :
    values.length ≤ 1 := by
  by_contra hlong
  rcases values with _ | ⟨a, _ | ⟨b, _ | ⟨c, _ | ⟨d, rest⟩⟩⟩⟩
  · exact hlong (Nat.zero_le 1)
  · exact hlong (Nat.le_refl 1)
  · exact htwo a b rfl
  · exact hthree a b c rfl
  · exact hfour a b c d rest rfl

/-- Eight bits make a byte, and less than eight make none. -/
theorem length_bytes (values : List Nat) : (bytes values).length = 6 * values.length / 8 := by
  induction values using bytes.induct with
  | case1 a b c d rest ih =>
      simp only [bytes, List.length_cons, ih]
      omega
  | case2 a b c => simp only [bytes, List.length_cons, List.length_nil]
  | case3 a b => simp only [bytes, List.length_cons, List.length_nil]
  | case4 values hfour hthree htwo =>
      have hlength := length_le_one values hfour hthree htwo
      rw [bytes.eq_4 values hfour hthree htwo, List.length_nil]
      omega

/-- The bits of the bytes are those of the symbols, from the front. -/
theorem byteBits_bytes_prefix (values : List Nat) (h : ∀ v ∈ values, v < 64) :
    byteBits (bytes values) <+: spread 6 values := by
  induction values using bytes.induct with
  | case1 a b c d rest ih =>
      rw [show a :: b :: c :: d :: rest = [a, b, c, d] ++ rest from rfl,
        List.forall_mem_append] at h
      have hgroup : spread 6 [a, b, c, d] = byteBits (bytes [a, b, c, d]) := by
        refine spread_four _ _ _ _ _ _ _ h.1 (lt_of_mem_toNat (bytes [a, b, c, d])) ?_
        simp only [List.forall_mem_cons] at h
        simp only [UInt8.toNat_ofNat']
        omega
      rcases ih h.2 with ⟨behind, hbehind⟩
      refine ⟨behind, ?_⟩
      calc byteBits (bytes (a :: b :: c :: d :: rest)) ++ behind
          = byteBits (bytes [a, b, c, d]) ++ (byteBits (bytes rest) ++ behind) :=
            List.append_assoc (byteBits (bytes [a, b, c, d])) _ _
        _ = spread 6 [a, b, c, d] ++ spread 6 rest := by rw [hgroup, hbehind]
        _ = spread 6 (a :: b :: c :: d :: rest) := (spread_append 6 [a, b, c, d] rest).symm
  | case2 a b c =>
      have hgroup : spread 6 [a, b, c] = byteBits (bytes [a, b, c]) ++ bits 2 (c % 4) := by
        refine spread_three _ _ _ _ _ _ h (lt_of_mem_toNat (bytes [a, b, c])) ?_ ?_
        · omega
        · simp only [List.forall_mem_cons] at h
          simp only [UInt8.toNat_ofNat']
          omega
      exact ⟨_, hgroup.symm⟩
  | case3 a b =>
      have hgroup : spread 6 [a, b] = byteBits (bytes [a, b]) ++ bits 4 (b % 16) := by
        refine spread_two _ _ _ _ h (lt_of_mem_toNat (bytes [a, b])) ?_ ?_
        · omega
        · simp only [List.forall_mem_cons] at h
          simp only [UInt8.toNat_ofNat']
          omega
      exact ⟨_, hgroup.symm⟩
  | case4 values hfour hthree htwo =>
      rw [bytes.eq_4 values hfour hthree htwo]
      exact List.nil_prefix

/-- Bytes are made of the bits in front. -/
theorem spread_eq_bytes (values : List Nat) (h : ∀ v ∈ values, v < 64) :
    spread 6 values = byteBits (bytes values) ++ unusedBits values := by
  rcases byteBits_bytes_prefix values h with ⟨behind, hbehind⟩
  have hunused : unusedBits values = behind := by
    rw [unusedBits, ← length_bytes, ← hbehind]
    exact List.drop_left' (length_byteBits _)
  rw [hunused, hbehind]

-- What makes no byte is left over.
theorem length_unusedBits (values : List Nat) :
    (unusedBits values).length = 6 * values.length % 8 := by
  rw [unusedBits, List.length_drop, length_spread]
  omega

/-- The bits that are over are those of the last value. -/
theorem unusedBits_concat (values : List Nat) (v : Nat) :
    unusedBits (values ++ [v]) = bits (6 * (values.length + 1) % 8) v := by
  have hplace : 8 * (6 * (values.length + 1) / 8) =
      (spread 6 values).length + (8 * (6 * (values.length + 1) / 8) - 6 * values.length) := by
    rw [length_spread]
    omega
  rw [unusedBits, spread_append, List.length_append, List.length_singleton, hplace,
    List.drop_length_add_append, spread, List.flatMap_singleton, drop_bits]
  congr 1
  omega

namespace Regroups

variable {values : List Nat} {bs : Bytes}

/-- The bytes are determined by the values, since what is over makes no byte. -/
theorem eq_bytes (h : Regroups values bs) : bs = bytes values := by
  rcases h.sameBits with ⟨spare, hspare, hbits⟩
  have hsize := congrArg List.length hbits
  simp only [length_spread, List.length_append, length_byteBits, List.length_replicate] at hsize
  rw [spread_eq_bytes values h.small] at hbits
  have hlength : (bytes values).length = bs.length := by
    rw [length_bytes]
    omega
  have hfront := (List.append_inj hbits (by rw [length_byteBits, length_byteBits, hlength])).1
  exact (byteBits_inj _ _ hlength hfront).symm

/-- The values are determined by the bytes, since no value is made of zeros that are
    over. -/
theorem eq_sextets (h : Regroups values bs) : values = sextets bs := by
  rcases h.sameBits with ⟨spare, hspare, hbits⟩
  rcases (regroups_sextets bs).sameBits with ⟨spare', hspare', hbits'⟩
  have hsize := congrArg List.length hbits
  have hsize' := congrArg List.length hbits'
  simp only [length_spread, List.length_append, length_byteBits, List.length_replicate]
    at hsize hsize'
  have hsame : spare = spare' := by omega
  refine spread_inj 6 _ _ h.small (lt_of_mem_sextets bs) (by omega) ?_
  rw [hbits, hbits', hsame]

end Regroups

/-- Values belong to the bytes that are made of them, unless a value is alone in its
    group or a bit that is over is not zero. -/
theorem regroups_iff (values : List Nat) (bs : Bytes) (hsmall : ∀ v ∈ values, v < 64) :
    Regroups values bs ↔
      values.length % 4 ≠ 1 ∧ (∀ bit ∈ unusedBits values, bit = false) ∧ bs = bytes values := by
  constructor
  · intro h
    rcases h.sameBits with ⟨spare, hspare, hbits⟩
    have hbytes := h.eq_bytes
    rw [spread_eq_bytes values hsmall, hbytes] at hbits
    have hunused := List.append_cancel_left hbits
    have hlength := congrArg List.length hunused
    rw [length_unusedBits, List.length_replicate] at hlength
    refine ⟨by omega, fun bit hbit => ?_, hbytes⟩
    rw [hunused] at hbit
    exact List.eq_of_mem_replicate hbit
  · intro h
    rcases h with ⟨hlength, hzero, rfl⟩
    refine ⟨hsmall, 6 * values.length % 8, by omega, ?_⟩
    rw [spread_eq_bytes values hsmall, ← length_unusedBits,
      List.eq_replicate_of_mem hzero, List.length_replicate]

end Base64

end Cosigner
