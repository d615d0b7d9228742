import Cosigner.Passkey.Assertion
import Cosigner.Proofs.Codec
import Cosigner.Proofs.Text.Utf8

/-!
# What a Challenge Determines

A challenge is a digest over six fields that are joined without separators. Whoever
approves a challenge approves the joined bytes, and these may be the bytes of another
input too. The question is which inputs those are.

The two fields at the end have a fixed length together, 40 bytes, so they are read off
from the end and always agree. What is in front of them is one byte string for four
fields, and nothing in it shows where a field ends. Bytes can move over a boundary, from
the origin to the key behind it for instance, and this is all the freedom there is. To
move bytes takes two fields. If three of the four are known, the lengths of two parts
around the fourth are known as well, and the fourth is what is left.

## Main definitions

* `ChallengeInput.joined`: The four fields of any length, in a row.
* `ChallengeInput.OneFieldApart`: Inputs that differ in one field.
* `ChallengeInput.Determines`: What the bytes under a challenge say about the input.

## Theorems

* `ChallengeInput.preimage_eq_iff`: Which inputs have the same bytes.
* `ChallengeInput.OneFieldApart.preimage_ne`: A single field cannot be exchanged.
* `ChallengeInput.determines`: All inputs, compared with each other.
-/

namespace Cosigner

theorem leBytes_inj (width n m : Nat) (hn : n < 256 ^ width) (hm : m < 256 ^ width) :
    leBytes width n = leBytes width m ↔ n = m := by
  constructor
  · intro h
    have hvalue := congrArg ofLE h
    rwa [ofLE_leBytes, ofLE_leBytes, Nat.mod_eq_of_lt hn, Nat.mod_eq_of_lt hm] at hvalue
  · rintro rfl
    rfl

namespace ChallengeInput

/-- The four fields of any length, in a row. -/
def joined (c : ChallengeInput) : Bytes :=
  c.payload ++ Utf8.encode c.origin ++ Utf8.encode c.deviceKey ++ Utf8.encode c.nonce

/-- An input that is like another one except for a single field. -/
inductive OneFieldApart (c : ChallengeInput) : ChallengeInput → Prop where
  | payload (payload : Bytes) (h : payload ≠ c.payload) : OneFieldApart c { c with payload }
  | origin (origin : String) (h : origin ≠ c.origin) : OneFieldApart c { c with origin }
  | deviceKey (deviceKey : String) (h : deviceKey ≠ c.deviceKey) :
      OneFieldApart c { c with deviceKey }
  | nonce (nonce : String) (h : nonce ≠ c.nonce) : OneFieldApart c { c with nonce }
  | slotHash (slotHash : Octets 32) (h : slotHash ≠ c.slotHash) :
      OneFieldApart c { c with slotHash }
  | slot (slot : UInt64) (h : slot ≠ c.slot) : OneFieldApart c { c with slot }

/-- Inputs have the same bytes exactly if their ends agree and their other fields do so
    in a row. -/
theorem preimage_eq_iff (c c' : ChallengeInput) :
    c.preimage = c'.preimage ↔
      c.slotHash = c'.slotHash ∧ c.slot = c'.slot ∧ c.joined = c'.joined := by
  have hslot : leBytes 8 c.slot.toNat = leBytes 8 c'.slot.toNat ↔ c.slot = c'.slot := by
    rw [leBytes_inj 8 _ _ c.slot.toNat_lt c'.slot.toNat_lt, UInt64.toNat_inj]
  constructor
  · intro h
    -- Both fields at the end have their length, whatever they hold.
    rcases List.append_inj' h (by rw [length_leBytes, length_leBytes]) with ⟨hfront, hend⟩
    rcases List.append_inj' hfront (by rw [c.slotHash.length_eq, c'.slotHash.length_eq]) with
      ⟨hjoined, hhash⟩
    exact ⟨Octets.ext _ _ hhash, hslot.mp hend, hjoined⟩
  · intro h
    rcases h with ⟨hhash, hend, hjoined⟩
    unfold joined at hjoined
    rw [preimage, preimage, hjoined, hhash, hend]

/-- A single field that is exchanged shows in the bytes, since all fields around it are the
    same. -/
theorem OneFieldApart.preimage_ne {c c' : ChallengeInput} (h : OneFieldApart c c') :
    c.preimage ≠ c'.preimage := by
  intro hsame
  rcases (preimage_eq_iff c c').mp hsame with ⟨hhash, hslot, hjoined⟩
  cases h with
  | payload payload h =>
      simp only [joined, List.append_cancel_right_eq] at hjoined
      exact h hjoined.symm
  | origin origin h =>
      simp only [joined, List.append_cancel_right_eq, List.append_cancel_left_eq,
        Utf8.encode_inj] at hjoined
      exact h hjoined.symm
  | deviceKey deviceKey h =>
      simp only [joined, List.append_cancel_right_eq, List.append_cancel_left_eq,
        Utf8.encode_inj] at hjoined
      exact h hjoined.symm
  | nonce nonce h =>
      simp only [joined, List.append_cancel_left_eq, Utf8.encode_inj] at hjoined
      exact h hjoined.symm
  | slotHash slotHash h => exact h hhash.symm
  | slot slot h => exact h hslot.symm

/-- What the bytes under a challenge say about the input. -/
structure Determines : Prop where
  -- The challenge is the digest of these bytes,
  digest : ∀ c : ChallengeInput, c.challenge = Sha256.digest c.preimage
  -- which two inputs share exactly if they have the same slot and the same hash of it, and
  -- if their other fields are the same in a row.
  same : ∀ c c' : ChallengeInput, c.preimage = c'.preimage ↔
    c.slotHash = c'.slotHash ∧ c.slot = c'.slot ∧
      c.payload ++ Utf8.encode c.origin ++ Utf8.encode c.deviceKey ++ Utf8.encode c.nonce =
        c'.payload ++ Utf8.encode c'.origin ++ Utf8.encode c'.deviceKey ++ Utf8.encode c'.nonce
  -- So no single field can be exchanged for another one.
  apart : ∀ c c' : ChallengeInput, OneFieldApart c c' → c.preimage ≠ c'.preimage

/-- The bytes under a challenge determine the input up to the boundaries of its fields. -/
theorem determines : Determines where
  digest _ := rfl
  same := preimage_eq_iff
  apart _ _ := OneFieldApart.preimage_ne

-- The end of the origin can stand at the start of the key behind it.
example :
    let input (origin deviceKey : String) : ChallengeInput :=
      ⟨[1, 2], origin, deviceKey, "n", Octets.replicate 32 3, 10⟩
    (input "ab" "c").preimage = (input "a" "bc").preimage ∧
      (input "ab" "c").preimage ≠ (input "ab" "bc").preimage := by
  decide +kernel

end ChallengeInput

end Cosigner
