import Cosigner.Octets
import Cosigner.Text.Utf8
import Mathlib.Data.List.DropRight

/-!
# Single Bytes of a Text

Some texts are taken apart as bytes: a token at its dots, base64url text at the fillers
at its end. What is found there are bytes, and what was meant are characters.

The two are the same for bytes below 128. Such a byte is the whole of a character, and
no other character has it among its bytes, because those of longer characters are all
128 or more. So a text can be cut at such a byte, and both parts are texts again.

## Theorems

* `Utf8.mem_utf8EncodeChar`: A byte below 128 belongs to one character only.
* `Utf8.encode_append`, `Utf8.encode_inj`: Bytes of texts in a row, and of equal texts.
* `Utf8.encode_ascii`: Bytes below 128 are the bytes of a text of as many characters.
* `Utf8.cut_at_byte`: A text is cut where its bytes are.
* `Utf8.rdropWhile_encode`: A character dropped from the end of a text.
-/

namespace Cosigner

namespace Utf8

theorem encode_ofList (cs : List Char) :
    encode (String.ofList cs) = cs.flatMap String.utf8EncodeChar := by
  rw [encode, String.toByteArray_ofList, List.utf8Encode, List.toList_data_toByteArray]

theorem encode_singleton (c : Char) :
    encode (String.singleton c) = String.utf8EncodeChar c := by
  rw [String.singleton_eq_ofList, encode_ofList, List.flatMap_singleton]

/-- Texts in a row have their bytes in a row. -/
theorem encode_append (s t : String) : encode (s ++ t) = encode s ++ encode t := by
  simp only [encode, String.toByteArray_append, ByteArray.toList_data_append]

/-- A text is told by its bytes. -/
theorem encode_inj (s t : String) : encode s = encode t ↔ s = t := by
  rw [← String.toByteArray_inj]
  simp only [encode, Array.toList_inj]
  exact ByteArray.ext_iff.symm

section Ascii

variable (b : UInt8) (hb : b < 128)

include hb

/-- An ASCII character is one byte, its own code. -/
theorem utf8EncodeChar_ascii : String.utf8EncodeChar (Char.ofNat b.toNat) = [b] := by
  have hlt : b.toNat < 128 := hb
  have hvalue : (Char.ofNat b.toNat).val.toNat = b.toNat := by
    have hvalid : b.toNat.isValidChar := .inl (by omega)
    rw [Char.ofNat, dif_pos hvalid]
    rfl
  rw [String.utf8EncodeChar]
  simp only [hvalue]
  rw [if_pos (by omega), UInt8.ofNat_toNat]

/-- A byte below 128 belongs to one character only. The bytes of every longer character
    have their highest bit set. -/
theorem mem_utf8EncodeChar (c : Char) :
    b ∈ String.utf8EncodeChar c ↔ c = Char.ofNat b.toNat := by
  have hlt : b.toNat < 128 := hb
  constructor
  · intro h
    rw [String.utf8EncodeChar] at h
    by_cases hsingle : c.val.toNat ≤ 127
    · rw [if_pos hsingle, List.mem_singleton] at h
      have hvalue : c.toNat = b.toNat := by
        rw [h, UInt8.toNat_ofNat', Nat.mod_eq_of_lt (by omega)]
        rfl
      rw [← hvalue, Char.ofNat_toNat]
    · rw [if_neg hsingle] at h
      exfalso
      split at h
      · simp only [List.mem_cons, List.not_mem_nil, or_false] at h
        rcases h with rfl | rfl
        all_goals rw [UInt8.toNat_ofNat'] at hlt
        all_goals omega
      · split at h
        · simp only [List.mem_cons, List.not_mem_nil, or_false] at h
          rcases h with rfl | rfl | rfl
          all_goals rw [UInt8.toNat_ofNat'] at hlt
          all_goals omega
        · simp only [List.mem_cons, List.not_mem_nil, or_false] at h
          rcases h with rfl | rfl | rfl | rfl
          all_goals rw [UInt8.toNat_ofNat'] at hlt
          all_goals omega
  · rintro rfl
    rw [utf8EncodeChar_ascii b hb]
    exact List.mem_singleton_self b

/-- The byte of an ASCII character stands for nothing else, since all bytes of longer
    characters are larger. -/
theorem mem_encode (s : String) : b ∈ encode s ↔ Char.ofNat b.toNat ∈ s.toList := by
  rw [← String.ofList_toList (s := s), encode_ofList, String.toList_ofList, List.mem_flatMap]
  simp only [mem_utf8EncodeChar b hb, exists_eq_right]

/-- A text is cut where its bytes are. -/
theorem cut_at_byte (s : String) (front back : Bytes) (h : encode s = front ++ b :: back) :
    ∃ u v, s = u ++ String.singleton (Char.ofNat b.toNat) ++ v ∧ encode u = front ∧
      encode v = back := by
  obtain ⟨cs, rfl⟩ : ∃ cs, s = String.ofList cs := ⟨s.toList, String.ofList_toList.symm⟩
  rw [encode_ofList] at h
  induction cs generalizing front with
  | nil => exact absurd h.symm (List.append_ne_nil_of_right_ne_nil _ (List.cons_ne_nil _ _))
  | cons c cs ih =>
      rw [List.flatMap_cons] at h
      -- Either the cut is behind the first character, or the byte is among its bytes.
      have hcut : (∃ front', front = String.utf8EncodeChar c ++ front' ∧
          cs.flatMap String.utf8EncodeChar = front' ++ b :: back) ∨
          ∃ inner, String.utf8EncodeChar c = front ++ b :: inner ∧
            back = inner ++ cs.flatMap String.utf8EncodeChar := by
        rcases List.append_eq_append_iff.mp h with ⟨front', hfront, hrest⟩ | ⟨inner, hchar, hrest⟩
        · exact .inl ⟨front', hfront, hrest⟩
        · cases inner with
          | nil =>
              rw [List.append_nil] at hchar
              exact .inl ⟨[], by rw [hchar, List.append_nil], hrest.symm⟩
          | cons b' inner =>
              rw [List.cons_append, List.cons.injEq] at hrest
              rw [← hrest.1] at hchar
              exact .inr ⟨inner, hchar, hrest.2⟩
      rcases hcut with ⟨front', rfl, hrest⟩ | ⟨inner, hchar, hback⟩
      · rcases ih front' hrest with ⟨u, v, hs, hu, hv⟩
        refine ⟨String.singleton c ++ u, v, ?_, ?_, hv⟩
        · rw [← List.singleton_append, String.ofList_append, hs, ← String.append_assoc,
            ← String.append_assoc]
          rfl
        · rw [encode_append, hu]
          congr 1
          rw [encode_singleton]
      · have hmem : b ∈ String.utf8EncodeChar c := by
          rw [hchar]
          exact List.mem_append_right _ List.mem_cons_self
        have hc := (mem_utf8EncodeChar b hb c).mp hmem
        -- The byte is the whole character, so nothing of it is left on either side.
        rw [hc, utf8EncodeChar_ascii b hb] at hchar
        have hlength := congrArg List.length hchar
        simp only [List.length_append, List.length_cons, List.length_nil] at hlength
        have hfront : front = [] := List.length_eq_zero_iff.mp (by omega)
        have hinner : inner = [] := List.length_eq_zero_iff.mp (by omega)
        refine ⟨"", String.ofList cs, ?_, hfront.symm, ?_⟩
        · rw [← List.singleton_append, String.ofList_append, hc, String.empty_append]
          rfl
        · rw [encode_ofList, hback, hinner, List.nil_append]

/-- Dropping a character from the end of a text drops its byte from the end of the bytes. -/
theorem rdropWhile_encode (cs : List Char) :
    (encode (String.ofList cs)).rdropWhile (· == b) =
      encode (String.ofList (cs.rdropWhile (· == Char.ofNat b.toNat))) := by
  rw [encode_ofList, encode_ofList]
  induction cs using List.reverseRecOn with
  | nil => rfl
  | append_singleton cs c ih =>
      rw [List.flatMap_append, List.flatMap_singleton]
      by_cases hc : c = Char.ofNat b.toNat
      · rw [hc, utf8EncodeChar_ascii b hb, List.rdropWhile_concat, List.rdropWhile_concat,
          beq_self_eq_true, beq_self_eq_true, if_pos rfl, if_pos rfl, ih]
      · -- The last byte of another character is not the byte.
        have hne := String.utf8EncodeChar_ne_nil (c := c)
        have hlast : (String.utf8EncodeChar c).getLast hne ≠ b := by
          intro heq
          exact hc ((mem_utf8EncodeChar b hb c).mp (heq ▸ List.getLast_mem hne))
        rw [List.rdropWhile_concat_neg _ _ _ (by rwa [beq_iff_eq]), List.flatMap_append,
          List.flatMap_singleton, ← List.dropLast_append_getLast hne, ← List.append_assoc,
          List.rdropWhile_concat_neg _ _ _ (by rwa [beq_iff_eq])]

end Ascii

/-- Bytes below 128 are the bytes of a text of as many characters. -/
theorem encode_ascii (bs : Bytes) (h : ∀ b ∈ bs, b < 128) :
    encode (String.ofList (bs.map fun b => Char.ofNat b.toNat)) = bs := by
  rw [encode_ofList]
  induction bs with
  | nil => rfl
  | cons b bs ih =>
      rw [List.forall_mem_cons] at h
      rw [List.map_cons, List.flatMap_cons, utf8EncodeChar_ascii b h.1, ih h.2]
      rfl

end Utf8

end Cosigner
