import Cosigner.Proofs.Outcome
import Cosigner.Proofs.Text.Sextets
import Cosigner.Proofs.Text.Utf8
import Mathlib.Data.List.TakeWhile

/-!
# Texts That Stand for Bytes

Web keys, tokens and WebAuthn fields are compared as texts in some places and as bytes
in others. This is sound only if a byte string has one spelling. Clients differ about
the fillers at the end of a text, so these do not count; everything else does.

The reader looks at a text in pieces, since a refusal has to name the first thing that
is wrong: a stray end, the groups in front, the last group, its filling, its last
symbol. None of this matters for a text that is accepted. There all steps together say
three things about the text as a whole, which are those of `Misspelled`. They are also
what it takes for the values of the symbols to have the bits of some byte string, so
the reader accepts what spells bytes, and a byte string is spelled by what is written
for it.

## Main definitions

* `Base64.urlAlphabet`: The symbols in the order of their values.
* `Base64.Spells`: A text with the bits of a byte string.
* `Base64.Misspelled`: A text that spells nothing.
* `Base64.withoutFilling`: A text without the fillers at its end.
* `Base64.OneSpelling`: Texts and byte strings, in both directions.

## Theorems

* `Base64.decode_eq_ok`: What the steps of reading say together.
* `Base64.decode_urlSafe_eq_ok`: The reader accepts what is written.
* `Base64.spells_iff`, `Base64.misspelled_iff`: What a text spells.
* `Base64.decodeUrl_eq_ok`: Texts with fillers at their end.
* `Base64.oneSpelling`: Bytes have one spelling.
-/

namespace Cosigner

namespace Base64

section Reading

variable (a : Alphabet)

-- The checks in front of decoding, each with what it asks of a text.
theorem firstStray?_eq_none (text : Bytes) :
    firstStray? a text = none ↔ ∀ b ∈ text, a.has b = true := by
  rw [firstStray?, Option.map_eq_none_iff, List.findIdx?_eq_none_iff]
  simp only [Bool.not_eq_false']

theorem strayEnd?_eq_none (text : Bytes) (h : ∀ b ∈ text, a.has b = true) :
    strayEnd? a text = none := by
  unfold strayEnd?
  cases hlast : text.getLast? with
  | none => rfl
  | some b =>
      have hhas := h b (List.mem_of_getLast? hlast)
      simp only [hhas, not_true, and_false, if_false]

/-- A last group without filling is one of symbols only. -/
theorem lastGroup_eq_ok (offset : Nat) (group symbols : Bytes) :
    lastGroup a offset group = .ok (symbols, 0) ↔
      (∀ b ∈ group, a.has b = true) ∧ symbols = group := by
  unfold lastGroup
  cases hrest : group.dropWhile a.has with
  | nil =>
      rw [List.dropWhile_eq_nil_iff] at hrest
      simp only [List.takeWhile_eq_self_iff.mpr hrest, Except.ok.injEq, Prod.mk.injEq, and_true]
      exact ⟨fun h => ⟨hrest, h.symm⟩, fun h => h.2.symm⟩
  | cons b rest =>
      have hstray : ¬ ∀ b ∈ group, a.has b = true := by
        intro h
        rw [List.dropWhile_eq_nil_iff.mpr h] at hrest
        exact List.cons_ne_nil b rest hrest.symm
      simp only [hstray, false_and, iff_false]
      split
      · simp only [Except.ok.injEq, Prod.mk.injEq, Nat.add_eq_zero_iff, Nat.one_ne_zero, and_false,
          not_false_eq_true]
      · simp only [reduceCtorEq, not_false_eq_true]

theorem length_filterMap_value? (text : Bytes) (h : ∀ b ∈ text, a.has b = true) :
    (text.filterMap a.value?).length = text.length :=
  List.filterMap_length_eq_length.mpr h

-- The last group is what is over four, and a full one if nothing is.
theorem sub_lastGroupStart (length : Nat) :
    length - lastGroupStart length = if length % 4 = 0 then min length 4 else length % 4 := by
  unfold lastGroupStart
  split
  all_goals omega

theorem leftOver_lastGroup (length value : Nat) :
    leftOver (length - lastGroupStart length) value = leftOver (length % 4) value := by
  rw [sub_lastGroupStart]
  by_cases hwhole : length % 4 = 0
  · have hgroup : min length 4 ≠ 2 ∧ min length 4 ≠ 3 := by omega
    rw [if_pos hwhole, hwhole, leftOver, if_neg hgroup.1, if_neg hgroup.2]
    rfl
  · rw [if_neg hwhole]

-- A last group of one symbol is the one that has no byte to give.
theorem lone_iff (text : Bytes) :
    text ≠ [] ∧ (text.drop (lastGroupStart text.length)).length < 2 ↔ text.length % 4 = 1 := by
  rw [List.length_drop, sub_lastGroupStart, ← List.length_pos_iff]
  split
  all_goals omega

-- The last symbol of a text is the last one of its last group.
theorem getLastD_lastGroup (text : Bytes) (h : ∀ b ∈ text, a.has b = true) :
    ((text.drop (lastGroupStart text.length)).filterMap a.value?).getLastD 0 =
      (text.filterMap a.value?).getLastD 0 := by
  have hsplit : text.filterMap a.value? =
      (text.take (lastGroupStart text.length)).filterMap a.value? ++
        (text.drop (lastGroupStart text.length)).filterMap a.value? := by
    rw [← List.filterMap_append, List.take_append_drop]
  have hlength := length_filterMap_value? a _ fun b hb =>
    h b (List.mem_of_mem_drop (i := lastGroupStart text.length) hb)
  rw [List.getLastD_eq_getLast?, List.getLastD_eq_getLast?, hsplit, List.getLast?_append]
  cases hlast : ((text.drop (lastGroupStart text.length)).filterMap a.value?).getLast? with
  | some v => rfl
  | none =>
      -- Then the last group is empty, and so is the text.
      rw [List.getLast?_eq_none_iff] at hlast
      rw [hlast, List.length_nil, List.length_drop, sub_lastGroupStart] at hlength
      have hempty : text.length = 0 := by
        split at hlength
        all_goals omega
      rw [List.length_eq_zero_iff.mp hempty]
      rfl

/-- What each step of reading must have come out with. -/
theorem decode_eq_ok_iff_steps (text bs : Bytes) :
    decode a false text = .ok bs ↔ strayEnd? a text = none ∧
      firstStray? a (text.take (lastGroupStart text.length)) = none ∧
      ∃ symbols, lastGroup a (lastGroupStart text.length)
          (text.drop (lastGroupStart text.length)) = .ok (symbols, 0) ∧
        ¬ (text ≠ [] ∧ symbols.length < 2) ∧
        leftOver (symbols.filterMap a.value?).length
          ((symbols.filterMap a.value?).getLastD 0) = 0 ∧
        bs = bytes ((text.take (lastGroupStart text.length)).filterMap a.value? ++
          symbols.filterMap a.value?) := by
  unfold decode
  simp only [Outcome.throw_eq, Outcome.error_bind, Bool.false_eq_true, if_false]
  cases strayEnd? a text with
  | some fault => simp only [reduceCtorEq, false_and]
  | none =>
      cases firstStray? a (text.take (lastGroupStart text.length)) with
      | some fault => simp only [reduceCtorEq, false_and, and_false]
      | none =>
          simp only [Outcome.bind_eq_ok, Outcome.ite_error_eq_ok, Outcome.pure_eq_ok, Prod.exists,
            ne_eq, not_not, true_and]
          constructor
          · intro h
            rcases h with ⟨symbols, filling, hgroup, hlone, rfl, hover, rfl⟩
            exact ⟨symbols, hgroup, hlone, hover, rfl⟩
          · intro h
            rcases h with ⟨symbols, hgroup, hlone, hover, rfl⟩
            exact ⟨symbols, 0, hgroup, hlone, rfl, hover, rfl⟩

/-- A text decodes exactly if all its characters are symbols, the last group is not a
    single one, and no bit is set that goes into no byte. It is decoded as the bytes of
    its values. -/
theorem decode_eq_ok (text bs : Bytes) :
    decode a false text = .ok bs ↔ (∀ b ∈ text, a.has b = true) ∧ text.length % 4 ≠ 1 ∧
      leftOver (text.length % 4) ((text.filterMap a.value?).getLastD 0) = 0 ∧
      bs = bytes (text.filterMap a.value?) := by
  have hsplit := List.take_append_drop (lastGroupStart text.length) text
  have hparts : (∀ b ∈ text, a.has b = true) ↔
      (∀ b ∈ text.take (lastGroupStart text.length), a.has b = true) ∧
        ∀ b ∈ text.drop (lastGroupStart text.length), a.has b = true := by
    rw [← List.forall_mem_append, hsplit]
  have hvalues : text.filterMap a.value? =
      (text.take (lastGroupStart text.length)).filterMap a.value? ++
        (text.drop (lastGroupStart text.length)).filterMap a.value? := by
    rw [← List.filterMap_append, hsplit]
  have hover (hall : ∀ b ∈ text, a.has b = true) :
      leftOver ((text.drop (lastGroupStart text.length)).filterMap a.value?).length
          (((text.drop (lastGroupStart text.length)).filterMap a.value?).getLastD 0) =
        leftOver (text.length % 4) ((text.filterMap a.value?).getLastD 0) := by
    rw [length_filterMap_value? a _ (hparts.mp hall).2, List.length_drop, leftOver_lastGroup,
      getLastD_lastGroup a text hall]
  rw [decode_eq_ok_iff_steps]
  simp only [lastGroup_eq_ok, firstStray?_eq_none]
  constructor
  · intro h
    rcases h with ⟨_, hbody, _, ⟨hgroup, rfl⟩, hlone, hunused, hbs⟩
    have hall := hparts.mpr ⟨hbody, hgroup⟩
    rw [lone_iff] at hlone
    rw [hover hall] at hunused
    exact ⟨hall, hlone, hunused, hbs.trans (congrArg bytes hvalues.symm)⟩
  · intro h
    rcases h with ⟨hall, hlone, hunused, hbs⟩
    rw [← hover hall] at hunused
    rw [hvalues] at hbs
    refine ⟨strayEnd?_eq_none a text hall, (hparts.mp hall).1, _, ⟨(hparts.mp hall).2, rfl⟩, ?_,
      hunused, hbs⟩
    rwa [lone_iff]

end Reading

-- The bits that are left over, counted in bits instead of symbols.
theorem leftOver_eq_mod (count value : Nat) (h : count ≠ 1) (hlt : count < 4) :
    leftOver count value = value % 2 ^ (6 * count % 8) := by
  rcases (by omega : count = 0 ∨ count = 2 ∨ count = 3) with rfl | rfl | rfl
  · exact (Nat.mod_one value).symm
  · rfl
  · rfl

/-- Nothing is left over exactly if the bits behind the last byte are zeros. -/
theorem unusedBits_eq_zeros (values : List Nat) (h : values.length % 4 ≠ 1) :
    (∀ bit ∈ unusedBits values, bit = false) ↔
      leftOver (values.length % 4) (values.getLastD 0) = 0 := by
  rw [leftOver_eq_mod _ _ h (Nat.mod_lt _ (by decide))]
  rcases List.eq_nil_or_concat' values with rfl | ⟨front, v, rfl⟩
  · exact ⟨fun _ => rfl, fun _ => List.forall_mem_nil _⟩
  · have hwidth : 6 * ((front ++ [v]).length % 4) % 8 = 6 * (front.length + 1) % 8 := by
      rw [List.length_append, List.length_singleton]
      omega
    rw [unusedBits_concat, bits_eq_zeros, hwidth, List.getLastD_eq_getLast?, List.getLast?_concat,
      Option.getD_some]

/-- A symbol has the value it was written for. -/
theorem value?_symbol : ∀ v < 64, Alphabet.urlSafe.value? (Alphabet.urlSafe.symbol v) = some v := by
  decide

/-- What has a value is the symbol for it, and no value is as large as 64. -/
theorem symbol_of_value? (b : UInt8) (v : Nat) (h : Alphabet.urlSafe.value? b = some v) :
    v < 64 ∧ Alphabet.urlSafe.symbol v = b := by
  have hbyte : ∀ n < 256, ∀ v ∈ Alphabet.urlSafe.value? (UInt8.ofNat n),
      v < 64 ∧ Alphabet.urlSafe.symbol v = UInt8.ofNat n := by
    decide +kernel
  have hb := hbyte b.toNat b.toNat_lt
  rw [UInt8.ofNat_toNat] at hb
  exact hb v h

/-- A text of symbols is the symbols of its values. -/
theorem map_symbol_filterMap (text : Bytes) (h : ∀ b ∈ text, Alphabet.urlSafe.has b = true) :
    (text.filterMap Alphabet.urlSafe.value?).map Alphabet.urlSafe.symbol = text := by
  induction text with
  | nil => rfl
  | cons b text ih =>
      rw [List.forall_mem_cons] at h
      rcases Option.isSome_iff_exists.mp h.1 with ⟨v, hv⟩
      rw [List.filterMap_cons_some hv, List.map_cons, (symbol_of_value? b v hv).2, ih h.2]

theorem lt_of_mem_filterMap (text : Bytes) :
    ∀ v ∈ text.filterMap Alphabet.urlSafe.value?, v < 64 := by
  intro v hv
  rcases List.mem_filterMap.mp hv with ⟨b, _, hb⟩
  exact (symbol_of_value? b v hb).1

/-- Written bytes have the values they were cut into. -/
theorem filterMap_urlSymbols (bs : Bytes) :
    (urlSymbols bs).filterMap Alphabet.urlSafe.value? = sextets bs := by
  rw [urlSymbols, List.filterMap_map]
  have hsame : ∀ v ∈ sextets bs,
      (Alphabet.urlSafe.value? ∘ Alphabet.urlSafe.symbol) v = some v :=
    fun v hv => value?_symbol v (lt_of_mem_sextets bs v hv)
  rw [List.filterMap_congr hsame, List.filterMap_some]

-- So what is written passes the check for strays.
theorem has_of_mem_urlSymbols (bs : Bytes) :
    ∀ b ∈ urlSymbols bs, Alphabet.urlSafe.has b = true := by
  intro b hb
  rcases List.mem_map.mp hb with ⟨v, hv, rfl⟩
  rw [Alphabet.has, value?_symbol v (lt_of_mem_sextets bs v hv), Option.isSome_some]

/-- Symbols without filling are read exactly if they are those of the bytes. -/
theorem decode_urlSafe_eq_ok (text bs : Bytes) :
    decode .urlSafe false text = .ok bs ↔ text = urlSymbols bs := by
  rw [decode_eq_ok]
  constructor
  · intro h
    rcases h with ⟨hall, hlone, hover, hbs⟩
    have hlength := length_filterMap_value? .urlSafe text hall
    rw [← hlength] at hlone hover
    have hregroups := (regroups_iff _ bs (lt_of_mem_filterMap text)).mpr
      ⟨hlone, (unusedBits_eq_zeros _ hlone).mpr hover, hbs⟩
    rw [urlSymbols, ← hregroups.eq_sextets, map_symbol_filterMap text hall]
  · rintro rfl
    have hvalues := filterMap_urlSymbols bs
    have hlength : (urlSymbols bs).length = (sextets bs).length := List.length_map _
    rcases (regroups_iff _ bs (lt_of_mem_sextets bs)).mp (regroups_sextets bs) with
      ⟨hlone, hzero, hbs⟩
    rw [hvalues, hlength]
    exact ⟨has_of_mem_urlSymbols bs, hlone, (unusedBits_eq_zeros _ hlone).mp hzero, hbs⟩

/-- The url-safe alphabet, each symbol at the place of its value. -/
def urlAlphabet : String :=
  "ABCDEFGHIJKLMNOPQRSTUVWXYZabcdefghijklmnopqrstuvwxyz0123456789-_"

/-- The character of a value. -/
def urlChar (v : Nat) : Char :=
  Char.ofNat (Alphabet.urlSafe.symbol v).toNat

/-- The value of a character. One outside of the alphabet has no value of six bits. -/
def urlValue (c : Char) : Nat :=
  urlAlphabet.toList.idxOf c

/-- The values of the characters of a text. -/
def urlValues (text : String) : List Nat :=
  text.toList.map urlValue

/-- A text that spells bytes. -/
def Spells (text : String) (bs : Bytes) : Prop :=
  Regroups (urlValues text) bs

/-- What makes a text no spelling of any bytes. -/
inductive Misspelled (text : String) : Prop where
  /-- A character outside of the alphabet. -/
  | stray (c : Char) (hmem : c ∈ text.toList) (hstray : c ∉ urlAlphabet.toList)
  /-- A last symbol that is alone in its group. -/
  | lone (h : text.length % 4 = 1)
  /-- A bit that belongs to no byte and is not zero. -/
  | unused (h : true ∈ unusedBits (urlValues text))

/-- A text without the fillers at its end. -/
def withoutFilling (text : String) : String :=
  String.ofList (text.toList.rdropWhile (· == '='))

theorem urlAlphabet_eq : urlAlphabet.toList = (List.range 64).map urlChar := by
  decide +kernel

-- Symbols are ASCII, so a text of them has one byte for each.
theorem symbol_lt : ∀ v < 64, Alphabet.urlSafe.symbol v < 128 := by
  decide

-- Bytes are written as texts in the program, and as bytes in the proofs here.
theorem encode_encodeUrl (bs : Bytes) : Utf8.encode (encodeUrl bs) = urlSymbols bs := by
  refine Utf8.encode_ascii _ fun b hb => ?_
  rcases List.mem_map.mp hb with ⟨v, hv, rfl⟩
  exact symbol_lt v (lt_of_mem_sextets bs v hv)

-- Filling is cut off before decoding, of bytes there and of characters here.
theorem dropFilling_encode (text : String) :
    dropFilling (Utf8.encode text) = Utf8.encode (withoutFilling text) := by
  have hdrop := Utf8.rdropWhile_encode filler (by decide) text.toList
  rw [String.ofList_toList] at hdrop
  exact hdrop

/-- Text is read as bytes exactly if, without fillers at its end, it is what the bytes are
    written as. -/
theorem decodeUrl_eq_ok (text : String) (bs : Bytes) :
    decodeUrl text = .ok bs ↔ withoutFilling text = encodeUrl bs := by
  rw [decodeUrl, decodeUrlBytes, dropFilling_encode, decode_urlSafe_eq_ok, ← encode_encodeUrl,
    Utf8.encode_inj]

/-- In the alphabet of characters, too, a symbol has the value it was written for. -/
theorem urlValue_urlChar : ∀ v < 64, urlValue (urlChar v) = v := by
  decide +kernel

theorem urlValue_lt_iff (c : Char) : urlValue c < 64 ↔ c ∈ urlAlphabet.toList := by
  rw [← List.idxOf_lt_length_iff, show urlAlphabet.toList.length = 64 from rfl, urlValue]

/-- A character of that alphabet is the symbol for its value. -/
theorem urlChar_urlValue (c : Char) (h : c ∈ urlAlphabet.toList) : urlChar (urlValue c) = c := by
  rw [urlAlphabet_eq] at h
  rcases List.mem_map.mp h with ⟨v, hv, rfl⟩
  rw [urlValue_urlChar v (List.mem_range.mp hv)]

/-- Bytes are written as the characters of their values. -/
theorem toList_encodeUrl (bs : Bytes) : (encodeUrl bs).toList = (sextets bs).map urlChar := by
  rw [encodeUrl, String.toList_ofList, urlSymbols, List.map_map]
  rfl

theorem urlValues_encodeUrl (bs : Bytes) : urlValues (encodeUrl bs) = sextets bs := by
  rw [urlValues, toList_encodeUrl, List.map_map]
  have hvalue : ∀ v ∈ sextets bs, (urlValue ∘ urlChar) v = id v :=
    fun v hv => urlValue_urlChar v (lt_of_mem_sextets bs v hv)
  rw [List.map_congr_left hvalue, List.map_id]

/-- The text that spells bytes is the one that they are written as. -/
theorem spells_iff (text : String) (bs : Bytes) : Spells text bs ↔ text = encodeUrl bs := by
  constructor
  · intro h
    have hmem : ∀ c ∈ text.toList, c ∈ urlAlphabet.toList :=
      fun c hc => (urlValue_lt_iff c).mp (h.small _ (List.mem_map_of_mem hc))
    have hsymbol : ∀ c ∈ text.toList, (urlChar ∘ urlValue) c = id c :=
      fun c hc => urlChar_urlValue c (hmem c hc)
    rw [← String.toList_inj, toList_encodeUrl, ← h.eq_sextets, urlValues, List.map_map,
      List.map_congr_left hsymbol, List.map_id]
  · rintro rfl
    rw [Spells, urlValues_encodeUrl]
    exact regroups_sextets bs

/-- A text is misspelled exactly if it spells nothing. -/
theorem misspelled_iff (text : String) : Misspelled text ↔ ∀ bs, ¬ Spells text bs := by
  have hlength : (urlValues text).length = text.length := by
    rw [urlValues, List.length_map, String.length_toList]
  constructor
  · intro h bs hspells
    have hparts := (regroups_iff _ bs hspells.small).mp hspells
    rw [hlength] at hparts
    cases h with
    | stray c hmem hstray =>
        exact hstray ((urlValue_lt_iff c).mp (hspells.small _ (List.mem_map_of_mem hmem)))
    | lone h => exact hparts.1 h
    | unused h => exact absurd (hparts.2.1 true h) (by decide)
  · intro h
    by_contra hnone
    have hsmall : ∀ v ∈ urlValues text, v < 64 := by
      intro v hv
      rcases List.mem_map.mp hv with ⟨c, hc, rfl⟩
      exact (urlValue_lt_iff c).mpr (by_contra fun hstray => hnone (.stray c hc hstray))
    refine h _ ((regroups_iff _ _ hsmall).mpr ⟨?_, fun bit hbit => ?_, rfl⟩)
    · rw [hlength]
      exact fun hlone => hnone (.lone hlone)
    · cases bit with
      | false => rfl
      | true => exact absurd (.unused hbit) hnone

-- What is written has no filling.
theorem withoutFilling_encodeUrl (bs : Bytes) : withoutFilling (encodeUrl bs) = encodeUrl bs := by
  have hfiller : '=' ∉ (encodeUrl bs).toList := by
    intro hmem
    have hspells := (spells_iff _ bs).mpr rfl
    have hsymbol := (urlValue_lt_iff '=').mp (hspells.small _ (List.mem_map_of_mem hmem))
    exact absurd hsymbol (by decide +kernel)
  rw [withoutFilling, List.rdropWhile_eq_self_iff.mpr, String.ofList_toList]
  intro hne hlast
  rw [beq_iff_eq] at hlast
  exact hfiller (hlast ▸ List.getLast_mem hne)

/-- What is written is read back. -/
theorem decodeUrl_encodeUrl (bs : Bytes) : decodeUrl (encodeUrl bs) = .ok bs :=
  (decodeUrl_eq_ok _ bs).mpr (withoutFilling_encodeUrl bs)

/-- Two byte strings that are written alike are one. -/
theorem encodeUrl_inj (bs bs' : Bytes) : encodeUrl bs = encodeUrl bs' ↔ bs = bs' := by
  constructor
  · intro h
    have hread := decodeUrl_encodeUrl bs
    rw [h, decodeUrl_encodeUrl, Except.ok.injEq] at hread
    exact hread.symm
  · rintro rfl
    rfl

theorem urlSymbols_inj (bs bs' : Bytes) : urlSymbols bs = urlSymbols bs' ↔ bs = bs' := by
  rw [← encode_encodeUrl, ← encode_encodeUrl, Utf8.encode_inj, encodeUrl_inj]

/-- Base64url text and byte strings, in both directions. -/
structure OneSpelling : Prop where
  -- A text is read as bytes exactly if, without fillers at its end, it is what the bytes
  -- are written as.
  read : ∀ text bs, decodeUrl text = .ok bs ↔ withoutFilling text = encodeUrl bs
  -- What they are written as has their bits, in symbols of the alphabet, with fewer than
  -- six zeros behind them. No other text has.
  written : ∀ text bs, text = encodeUrl bs ↔ Spells text bs
  -- So any bytes are read back,
  readBack : ∀ bs, decodeUrl (encodeUrl bs) = .ok bs
  -- no two byte strings are written alike,
  injective : ∀ bs bs', encodeUrl bs = encodeUrl bs' → bs = bs'
  -- and a text is refused exactly if it has a character outside of the alphabet, a symbol
  -- that is alone in its group, or a bit that is neither a byte's nor zero.
  refused : ∀ text, (∃ fault, decodeUrl text = .error fault) ↔ Misspelled (withoutFilling text)

/-- Bytes have one spelling as base64url text, fillers at the end aside. -/
theorem oneSpelling : OneSpelling where
  read := decodeUrl_eq_ok
  written text bs := (spells_iff text bs).symm
  readBack := decodeUrl_encodeUrl
  injective bs bs' h := (encodeUrl_inj bs bs').mp h
  refused text := by
    rw [misspelled_iff]
    simp only [spells_iff, ← decodeUrl_eq_ok]
    cases decodeUrl text with
    | error fault => simp only [Except.error.injEq, exists_eq', reduceCtorEq, not_false_eq_true,
        implies_true]
    | ok bs => simp only [reduceCtorEq, exists_false, Except.ok.injEq, forall_eq']

-- One filler too few is no fault, and neither are many. The last symbol of the third text has a
-- bit over that is not zero.
example : decodeUrl "YQ" = .ok [97] ∧ decodeUrl "YQ=====" = .ok [97] ∧
    decodeUrl "YR" = .error (.unusedBits 82 1) ∧ decodeUrl "YQ=Q" = .error (.strayByte 61 2) := by
  decide +kernel

end Base64

end Cosigner
