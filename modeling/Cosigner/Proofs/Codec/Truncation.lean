import Cosigner.Proofs.Codec

/-!
# Bytes That End Too Early

Exactness says that a byte string with something missing does not read as the value
that was written. It does not say how reading fails, nor that it fails because of the
missing bytes: a reader might run into a wrong byte first, or take a length from the
wrong place.

To exclude this, two runs of a reader are laid side by side, one on the whole input
and one on a prefix of it. They take the same steps as long as the prefix lasts. A
length that is read in the prefix is the length that is read in the whole, so the
first difference is a block that does not fit into the prefix any more. There the run
on the prefix stops, and it reports the size of the block and what is left of it. As
the run on the whole input reads this block, the missing part of it is among the bytes
that were cut off.

This relation of two runs is kept by doing one step of reading after another, and
every layout is such steps, down to single blocks.

## Main definitions

* `Codec.CutOff`: A block that a prefix holds only in part.
* `Codec.Streaming`: A reader whose runs on prefixes are cut short.

## Theorems

* `Codec.Streaming.bind`: Steps of reading in sequence.
* `Codec.streaming_octets`: Blocks.
* `Codec.Streaming.pair`, `Codec.Streaming.imap`, `Codec.Streaming.listOf`,
  `Codec.streaming_blob`: Compound layouts.
* `Codec.Streaming.decodeAll_cut`: A proper prefix of an input that reads is short.
* `Codec.Exact.decodeAll_append`: An input that reads leaves what is added to it.
-/

namespace Cosigner

namespace Codec

variable {α β : Type}

/-- A block of `needed` bytes of which `left` stand at the end of a prefix, and the
    others in what was cut off. -/
structure CutOff (front back : Bytes) (needed left : Nat) : Prop where
  -- Not the whole block is there.
  short : left < needed
  -- It starts within the prefix or at its end.
  starts : left ≤ front.length
  -- What is missing was cut off.
  missing : needed ≤ left + back.length

/-- A reader that takes the same steps on a prefix as on the whole input, as long as the
    prefix lasts. Either it has its value by then, or it reports the block that is cut
    off. -/
def Streaming (read : Bytes → Except Fault (α × Bytes)) : Prop :=
  ∀ front back a rest, read (front ++ back) = .ok (a, rest) →
    (∃ kept, read front = .ok (a, kept) ∧ rest = kept ++ back ∧ kept.length ≤ front.length) ∨
      ∃ needed left, read front = .error (.short needed left) ∧ CutOff front back needed left

-- Reading that goes from left to right is put together from parts that do.
theorem streaming_pure (a : α) : Streaming fun bs => .ok (a, bs) := by
  intro front back a' rest h
  rw [Except.ok.injEq, Prod.mk.injEq] at h
  rw [← h.1, ← h.2]
  exact .inl ⟨front, rfl, rfl, Nat.le_refl _⟩

/-- One step of reading after another. -/
theorem Streaming.bind {read : Bytes → Except Fault (α × Bytes)}
    {next : α → Bytes → Except Fault (β × Bytes)} (hread : Streaming read)
    (hnext : ∀ a, Streaming (next a)) : Streaming fun bs => read bs >>= fun p => next p.1 p.2 := by
  intro front back b rest h
  rcases (Outcome.bind_eq_ok _ _ _).mp h with ⟨⟨a, mid⟩, hfirst, hsecond⟩
  rcases hread front back a mid hfirst with
    ⟨kept, hkept, rfl, hlength⟩ | ⟨needed, left, hshort, hcut⟩
  · -- The first step is done within the prefix, so the second decides.
    rcases hnext a kept back b rest hsecond with
      ⟨kept', hkept', hrest, hlength'⟩ | ⟨needed, left, hshort, hcut⟩
    · refine .inl ⟨kept', ?_, hrest, Nat.le_trans hlength' hlength⟩
      exact (Outcome.bind_eq_ok _ _ _).mpr ⟨(a, kept), hkept, hkept'⟩
    · refine .inr ⟨needed, left, ?_, hcut.short, Nat.le_trans hcut.starts hlength, hcut.missing⟩
      exact (Outcome.bind_eq_error _ _ _).mpr (.inr ⟨(a, kept), hkept, hshort⟩)
  · exact .inr ⟨needed, left, (Outcome.bind_eq_error _ _ _).mpr (.inl hshort), hcut⟩

/-- A block is either within the prefix or cut off. -/
theorem streaming_octets (n : Nat) : Streaming (octets n).decode := by
  intro front back o rest h
  rcases (exact_octets n _ o rest).mp h with ⟨_, hform⟩
  have hsize := congrArg List.length hform
  rw [List.length_append, List.length_append, length_encode_octets] at hsize
  by_cases hlength : n ≤ front.length
  · -- The block is the start of the prefix.
    have hblock : front = (octets n).encode o ++ front.drop n := by
      have htake := congrArg (List.take n) hform
      rw [List.take_append_of_le_length hlength, List.take_left' (length_encode_octets o)] at htake
      rw [← htake, List.take_append_drop]
    refine .inl ⟨front.drop n, (exact_octets n _ o _).mpr ⟨trivial, hblock⟩, ?_, ?_⟩
    · rw [hblock, List.append_assoc] at hform
      exact (List.append_cancel_left hform).symm
    · rw [List.length_drop]
      omega
  · have htake : ¬ (front.take n).length = n := by
      rw [List.length_take]
      omega
    exact .inr ⟨n, front.length, dif_neg htake, by omega, Nat.le_refl _, by omega⟩

theorem Streaming.imap {c : Codec α} (hc : Streaming c.decode) (into : α → β) (back : β → α) :
    Streaming (c.imap into back).decode :=
  hc.bind fun a => streaming_pure (into a)

theorem streaming_word (width : Nat) (ofNat : Nat → α) (toNat : α → Nat) :
    Streaming (word width ofNat toNat).decode :=
  (streaming_octets width).imap _ _

theorem Streaming.pair {a : Codec α} {b : Codec β} (ha : Streaming a.decode)
    (hb : Streaming b.decode) : Streaming (a.pair b).decode :=
  ha.bind fun x => hb.bind fun y => streaming_pure (x, y)

/-- A list ends where its last entry does. -/
theorem Streaming.decodeMany {c : Codec α} (hc : Streaming c.decode) (n : Nat) :
    Streaming (c.decodeMany n) := by
  induction n with
  | zero => exact streaming_pure []
  | succ n ih => exact hc.bind fun a => ih.bind fun as => streaming_pure (a :: as)

/-- The length of a list is read first, and it is the same in both runs. -/
theorem Streaming.listOf {c : Codec α} (hc : Streaming c.decode) (width : Nat) :
    Streaming (c.listOf width).decode :=
  (streaming_word width id id).bind fun n => hc.decodeMany n

theorem streaming_blob (width : Nat) : Streaming (blob width).decode :=
  (streaming_word width id id).bind fun n =>
    (streaming_octets n).bind fun block => streaming_pure block.toBytes

/-- A proper prefix of an input that reads is refused for the first block that is cut
    off. -/
theorem Streaming.decodeAll_cut {c : Codec α} (hc : Streaming c.decode) (front back : Bytes)
    (a : α) (h : c.decodeAll (front ++ back) = .ok a) (hback : back ≠ []) :
    ∃ needed left, c.decodeAll front = .error (.short needed left) ∧
      CutOff front back needed left := by
  rcases (Outcome.bind_eq_ok _ _ _).mp h with ⟨⟨a', rest⟩, hread, hend⟩
  have hrest : rest = [] := by
    by_contra hne
    simp only [List.isEmpty_iff, hne, if_false, Outcome.throw_eq, reduceCtorEq] at hend
  rcases hc front back a' rest hread with ⟨kept, _, hkept, _⟩ | ⟨needed, left, hshort, hcut⟩
  · -- Then nothing was cut off.
    rw [hrest] at hkept
    exact absurd (List.append_eq_nil_iff.mp hkept.symm).2 hback
  · exact ⟨needed, left, (Outcome.bind_eq_error _ _ _).mpr (.inl hshort), hcut⟩

/-- An input that reads still reads with something added, which is left over. -/
theorem Exact.decodeAll_append {c : Codec α} {P : α → Prop} (hc : c.Exact P) (bs extra : Bytes)
    (a : α) (h : c.decodeAll bs = .ok a) (hextra : extra ≠ []) :
    c.decodeAll (bs ++ extra) = .error (.trailing extra.length) := by
  rcases (hc.decodeAll_eq_ok bs a).mp h with ⟨hfits, hbs⟩
  have hread := (hc (bs ++ extra) a extra).mpr ⟨hfits, by rw [hbs]⟩
  refine (Outcome.bind_eq_error _ _ _).mpr (.inr ⟨(a, extra), hread, ?_⟩)
  simp only [List.isEmpty_iff, hextra, if_false, Outcome.throw_eq]

end Codec

end Cosigner
