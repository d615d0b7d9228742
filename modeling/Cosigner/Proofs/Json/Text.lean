import Cosigner.Json.Printer
import Cosigner.Json.Reader
import Cosigner.Proofs.Codec

/-!
# Texts in JSON

A text is written into a JSON string byte by byte, and there are three forms that
a byte can take: a backslash with a letter, a backslash with a number, or the byte
itself. `Escaped` keeps what each form owes to a reader. Whoever reads a string
goes through forms and not through bytes, and has the three cases of `Escaped`
instead of the eight of `escapeByte`.

A reader takes a string in two steps. It first looks for the closing quote, and no
form may hide that quote or look like it; much later it undoes the forms. The two
steps share nothing but the forms, so each is followed on its own.

Characters need no look at all. Forms are made of the bytes of a text, undoing
them gives the bytes back, and those are the bytes of one text only.

## Main definitions

* `Json.Escaped`: A byte of a text and its form in a string.
* `Json.Delimited`: Raw bytes that end where a quote is put behind them.

## Theorems

* `Json.escaped_escapeByte`: Every byte is written in one of the forms.
* `Json.delimited_escape`: The string of a text ends at its closing quote.
* `Json.textOf?_escape`: The string of a text stands for that text.
-/

namespace Cosigner

-- A text is decoded from its own bytes.
theorem Utf8.decode?_encode (s : String) : decode? (encode s) = some s := by
  rw [decode?, (decode_eq_ok (encode s) s).mpr rfl]
  rfl

namespace Json

/-- A byte of a text and its form in a string. -/
inductive Escaped (b : UInt8) : Bytes → Prop where
  /-- A backslash and the letter that JSON has for the byte. -/
  | letter (c : UInt8) (hu : c ≠ 117) (hc : shortEscape? c = some b) : Escaped b [92, c]
  /-- A backslash and the number of a control character. -/
  | number (hcontrol : b < 32) :
      Escaped b [92, 117, 48, 48, hexDigit (b.toNat / 16), hexDigit (b.toNat % 16)]
  /-- The byte itself. -/
  | plain (hquote : b ≠ 34) (hslash : b ≠ 92) (hcontrol : ¬ b < 32) : Escaped b [b]

/-- Raw bytes that end where a quote is put behind them. -/
def Delimited (raw : Bytes) : Prop :=
  ∀ rest, rawString? (raw ++ 34 :: rest) = some (raw, rest)

/-- Every byte is written in one of the forms. -/
theorem escaped_escapeByte (b : UInt8) : Escaped b (escapeByte b) := by
  by_cases hself : b = 34 ∨ b = 92
  · rw [escapeByte, if_pos hself]
    rcases hself with rfl | rfl
    · exact .letter 34 (by decide) (by decide)
    · exact .letter 92 (by decide) (by decide)
  by_cases hletter : b = 8 ∨ b = 9 ∨ b = 10 ∨ b = 12 ∨ b = 13
  · rcases hletter with rfl | rfl | rfl | rfl | rfl
    · exact .letter 98 (by decide) (by decide)
    · exact .letter 116 (by decide) (by decide)
    · exact .letter 110 (by decide) (by decide)
    · exact .letter 102 (by decide) (by decide)
    · exact .letter 114 (by decide) (by decide)
  simp only [not_or] at hself hletter
  simp only [escapeByte, hself, hletter, or_self, if_false]
  by_cases hcontrol : b < 32
  · rw [if_pos hcontrol]
    exact .number hcontrol
  · rw [if_neg hcontrol]
    exact .plain hself.1 hself.2 hcontrol

theorem hexNumber?_hexDigit :
    ∀ n < 32, hexNumber? 48 48 (hexDigit (n / 16)) (hexDigit (n % 16)) = some n := by
  decide

theorem codePoint_of_lt : ∀ n < 32, codePoint n = [UInt8.ofNat n] := by
  decide

/-- A form is passed on the way to the closing quote. -/
theorem rawString?_escaped (b : UInt8) (form : Bytes) (h : Escaped b form) (rest : Bytes) :
    rawString? (form ++ rest) = (rawString? rest).map fun found => (form ++ found.1, found.2) := by
  cases h with
  | letter c hu hc =>
      simp only [List.cons_append, List.nil_append]
      rw [rawString?.eq_3 c rest fun _ _ _ _ _ heq _ => hu heq, hc]
      cases rawString? rest <;> rfl
  | number hcontrol =>
      simp only [List.cons_append, List.nil_append]
      rw [rawString?, hexNumber?_hexDigit b.toNat hcontrol]
      cases rawString? rest <;> rfl
  | plain hquote hslash hcontrol =>
      simp only [List.cons_append, List.nil_append]
      rw [rawString?.eq_4 b rest (fun _ _ _ _ _ heq _ => hslash heq) fun _ _ heq _ => hslash heq,
        if_neg hquote, if_neg (by simp only [hcontrol, hslash, or_self, not_false_eq_true])]
      cases rawString? rest <;> rfl

/-- A form is undone into its byte. -/
theorem unescape?_escaped (b : UInt8) (form : Bytes) (h : Escaped b form) (rest : Bytes) :
    unescape? (form ++ rest) = (unescape? rest).map (b :: ·) := by
  cases h with
  | letter c hu hc =>
      simp only [List.cons_append, List.nil_append]
      rw [unescape?.eq_3 c rest fun _ _ _ _ _ heq _ => hu heq, hc]
      cases unescape? rest <;> rfl
  | number hcontrol =>
      have hlt : b.toNat < 32 := hcontrol
      have hsmall : b.toNat < 0xD800 ∨ 0xDFFF < b.toNat := .inl (by omega)
      simp only [List.cons_append, List.nil_append]
      rw [unescape?, hexNumber?_hexDigit b.toNat hcontrol, Option.bind_eq_bind,
        Option.bind_some, if_pos hsmall, codePoint_of_lt b.toNat hlt, UInt8.ofNat_toNat]
      cases unescape? rest <;> rfl
  | plain hquote hslash hcontrol =>
      simp only [List.cons_append, List.nil_append]
      rw [unescape?.eq_4 b rest (fun _ _ _ _ _ heq _ => hslash heq) fun _ _ heq _ => hslash heq]
      cases unescape? rest <;> rfl

/-- The string of a text ends at its closing quote. -/
theorem delimited_escape (s : String) : Delimited (escape s) := by
  intro rest
  unfold escape
  induction Utf8.encode s with
  | nil => rfl
  | cons b bs ih =>
      rw [List.flatMap_cons, List.append_assoc,
        rawString?_escaped b (escapeByte b) (escaped_escapeByte b), ih]
      rfl

/-- Escaping is undone byte by byte. -/
theorem unescape?_flatMap_escapeByte (bs : Bytes) :
    unescape? (bs.flatMap escapeByte) = some bs := by
  induction bs with
  | nil => rfl
  | cons b bs ih =>
      rw [List.flatMap_cons, unescape?_escaped b (escapeByte b) (escaped_escapeByte b), ih]
      rfl

/-- The string of a text stands for that text. -/
@[simp] theorem textOf?_escape (s : String) : textOf? (escape s) = some s := by
  rw [textOf?, escape, unescape?_flatMap_escapeByte]
  exact Utf8.decode?_encode s

-- One byte in each form, and a character of two bytes.
example : escape "é\n\x1f" = Utf8.encode "é\\n\\u001f" := by rfl

end Json

end Cosigner
