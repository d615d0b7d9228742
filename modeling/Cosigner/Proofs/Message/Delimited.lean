import Cosigner.Proofs.Codec.Truncation
import Cosigner.Proofs.Message.Wire

/-!
# A Wire Form Shows Where It Ends

A wire form has no mark at its end. Its end follows from the lengths in it, and these
stand in front of lists at three depths. So one could fear that a message that was cut
somewhere reads as a shorter message, because a length that was meant for one list is
taken for another, or that a message with bytes behind it reads as a longer one.

Neither happens. A cut message is read as the whole one is, up to the part in which it
was cut, and this part is reported with its full size and with what is left of it. A
message with more bytes behind it is read to its own end, and what follows is counted.

## Theorems

* `WalletMessage.streaming_codec`: A cut message is read as far as it goes.
* `WalletMessage.decode_cut`, `WalletMessage.decode_extended`: How either is refused.
* `WalletMessage.decode_delimited`: No wire form starts with another one.
-/

namespace Cosigner

namespace WalletMessage

/-- A message that was cut is read as the whole one is, up to the cut. -/
theorem streaming_codec : Codec.Streaming codec.decode := by
  have hu8 : Codec.Streaming Codec.u8.decode := Codec.streaming_word 1 _ _
  have hheader : Codec.Streaming Header.codec.decode := (hu8.pair (hu8.pair hu8)).imap _ _
  have hinstruction : Codec.Streaming IndexedInstruction.codec.decode :=
    (hu8.pair ((Codec.streaming_blob 1).pair (Codec.streaming_blob 2))).imap _ _
  have hlookup : Codec.Streaming TableLookup.codec.decode :=
    ((Codec.streaming_octets 32).pair
      ((Codec.streaming_blob 1).pair (Codec.streaming_blob 1))).imap _ _
  exact (hheader.pair (((Codec.streaming_octets 32).listOf 1).pair
    ((hinstruction.listOf 1).pair (hlookup.listOf 1)))).imap _ _

theorem decode_eq_ok_iff_decodeAll (bs : Bytes) (m : WalletMessage) :
    decode bs = .ok m ↔ codec.decodeAll bs = .ok m := by
  rw [decode_eq_ok, exact_codec.decodeAll_eq_ok]

/-- A message that was cut is refused for the first part that is cut off. -/
theorem decode_cut (front back : Bytes) (m : WalletMessage)
    (h : decode (front ++ back) = .ok m) (hback : back ≠ []) :
    ∃ needed left, decode front = .error (.undecodable front.length (.short needed left)) ∧
      Codec.CutOff front back needed left := by
  rw [decode_eq_ok_iff_decodeAll] at h
  rcases streaming_codec.decodeAll_cut front back m h hback with ⟨needed, left, hshort, hcut⟩
  exact ⟨needed, left, by rw [decode, hshort], hcut⟩

/-- A message with bytes behind it is refused for these bytes. -/
theorem decode_extended (bs extra : Bytes) (m : WalletMessage) (h : decode bs = .ok m)
    (hextra : extra ≠ []) :
    decode (bs ++ extra)
      = .error (.undecodable (bs.length + extra.length) (.trailing extra.length)) := by
  rw [decode_eq_ok_iff_decodeAll] at h
  rw [decode, exact_codec.decodeAll_append bs extra m h hextra, List.length_append]

/-- Of a byte string that decodes, no proper prefix and no proper extension decodes; both
    are refused as malformed. A prefix lacks bytes: the report names the size of the first
    part that is cut off, where it starts and what is left of it, and the missing bytes
    are among those that were cut off. An extension has as many bytes left over as were
    added. -/
theorem decode_delimited (bs : Bytes) (m : WalletMessage) (h : decode bs = .ok m) :
    (∀ front back, bs = front ++ back → back ≠ [] →
      ∃ e needed left, decode front = .error e ∧ e.name = "MalformedMessage" ∧
        e.message = "Malformed message: " ++
          s!"needed {needed} bytes at offset {front.length - left}, {left} left" ∧
        left < needed ∧ left ≤ front.length ∧ needed ≤ left + back.length) ∧
    ∀ extra, extra ≠ [] →
      ∃ e, decode (bs ++ extra) = .error e ∧ e.name = "MalformedMessage" ∧
        e.message = s!"Malformed message: {extra.length} trailing bytes" := by
  refine ⟨fun front back hbs hback => ?_, fun extra hextra => ?_⟩
  · rw [hbs] at h
    rcases decode_cut front back m h hback with ⟨needed, left, hshort, hcut⟩
    exact ⟨_, needed, left, hshort, rfl, rfl, hcut.short, hcut.starts, hcut.missing⟩
  · exact ⟨_, decode_extended bs extra m h hextra, rfl, rfl⟩

/-- A message that is cut right behind the number of its lookups, where all lists in front
    are complete, and the same message twice in a row. -/
theorem decode_delimited_oneLookup :
    let key (n : UInt8) : Address := Octets.replicate 32 n
    let m : WalletMessage := {
      header := ⟨1, 1, 0⟩
      keys := [key 1]
      instructions := [⟨0, [1, 2], [7]⟩]
      lookups := [⟨key 20, [1], [0]⟩] }
    let bs := [1, 1, 0, 1] ++ (key 1).toBytes ++ [1, 0, 2, 1, 2, 1, 0, 7, 1] ++
      (key 20).toBytes ++ [1, 1, 1, 0]
    decode bs = .ok m ∧
      (∃ e, decode (bs.take 45) = .error e ∧ e.name = "MalformedMessage") ∧
      ∃ e, decode (bs ++ bs) = .error e ∧ e.name = "MalformedMessage" := by
  intro key m bs
  have hread : decode bs = .ok m := by decide +kernel
  rcases decode_delimited bs m hread with ⟨hcut, hextended⟩
  rcases hcut (bs.take 45) (bs.drop 45) (List.take_append_drop 45 bs).symm (by decide +kernel) with
    ⟨e, _, _, he, hname, _⟩
  rcases hextended bs (by decide +kernel) with ⟨e', he', hname', _⟩
  exact ⟨hread, ⟨e, he, hname⟩, e', he', hname'⟩

end WalletMessage

end Cosigner
