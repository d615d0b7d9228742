import Cosigner.Proofs.Wallet.Arguments
import Cosigner.Wallet.Settings

/-!
# Settings as Account Data

An account can be larger than the settings in it, so its data is not required to end
where the settings do. A reader that ignores what follows is a risk when what it reads
says itself how much there is to read. The number of members is such a number. If it is
wrong, bytes behind the settings are taken for members, and still something is read.

What keeps this in bounds is that reading is exact. A wrong number is not a misread form
of the settings that were written; it is the form of other settings, and all of it is
there. So the bytes that were read always are the form of what was read, and a form that
is cut short is not read at all, because its own start would have to be a whole form.

This holds of the reader for accounts and of the one for compressed data, for the same
reason, and it is derived for both from what they accept.

## Main definitions

* `Member.form`, `Settings.body`: The layout of settings, byte by byte.
* `Settings.ReadsFront`: A reader of forms that others may follow.

## Theorems

* `Layout.readFront_eq_ok`: What the front of data is read as.
* `AccountType.strip_eq_ok`: Which account data has a discriminator.
* `Settings.encode_eq_body`: Settings are written field by field.
* `Settings.readsFront_of_iff`: What follows from knowing which data is accepted.
* `Settings.readsFront`: Both readers take a form from the front.
-/

namespace Cosigner

/-- The front of data is read as a value exactly if it is the form of the value. -/
theorem Layout.readFront_eq_ok {α : Type} {P : α → Prop} (l : Layout α) (hl : l.codec.Exact P)
    (data : Bytes) (a : α) : l.readFront data = .ok a ↔ P a ∧ l.codec.encode a <+: data := by
  have hread : l.readFront data = .ok a ↔ ∃ rest, l.codec.decode data = .ok (a, rest) := by
    unfold readFront
    cases l.codec.decode data with
    | error fault => simp only [reduceCtorEq, exists_false]
    | ok found => simp only [Except.ok.injEq, Prod.ext_iff, exists_and_left, exists_eq', and_true]
  rw [hread]
  simp only [hl data, exists_and_left]
  exact and_congr_right fun _ => exists_congr fun _ => eq_comm

/-- Account data is taken for that of a type exactly if it has the discriminator in front. -/
theorem AccountType.strip_eq_ok (type : AccountType) (data rest : Bytes) :
    type.strip data = .ok rest ↔ data = type.discriminator.toBytes ++ rest := by
  have hlength := type.discriminator.length_eq
  unfold strip
  rw [Outcome.ite_else_error_eq_ok, Except.ok.injEq]
  constructor
  · intro h
    rw [← h.1, ← h.2, List.take_append_drop]
  · rintro rfl
    exact ⟨List.take_left' hlength, List.drop_left' hlength⟩

/-- The 35 bytes of a member: a tag and a key, then what the member may do. -/
def Member.form (m : Member) : Bytes :=
  m.key.tag :: m.key.key.toBytes ++ [m.permissions]

namespace Settings

/-- The bytes of settings: the number of the wallet in 16 bytes, the number of members in
    4, the members, and three single bytes. -/
def body (s : Settings) : Bytes :=
  leBytes 16 s.index.toNat ++ leBytes 4 s.members.length ++ s.members.flatMap Member.form ++
    [s.threshold, s.vaultBump, s.bump]

/-- A reader that takes a form from the front of its input, whatever follows it. -/
structure ReadsFront (read : Bytes → Except LayoutError Settings) (form : Settings → Bytes) :
    Prop where
  -- What is written is read back, with anything behind it,
  tail : ∀ s tail, s.members.length < 2 ^ 32 → read (form s ++ tail) = .ok s
  -- what is read was written, with something behind it,
  front : ∀ data s, read data = .ok s → s.members.length < 2 ^ 32 ∧ form s <+: data
  -- and what was written is refused if the end of it is missing.
  cut : ∀ s front back, s.members.length < 2 ^ 32 → form s = front ++ back → back ≠ [] →
    ∃ e, read front = .error e

theorem exact_codec : layout.codec.Exact fun s => s.members.length < 2 ^ 32 := by
  simp only [layout]
  refine (Codec.exact_u128.pair ((Member.exact_codec.listOf_of_all 4).pair
    (Codec.exact_u8.pair (Codec.exact_u8.pair Codec.exact_u8)))).imap _ _ _
    (fun parts h => ⟨?_, rfl⟩) (fun s h => ⟨?_, rfl⟩)
  · exact h.2.1
  · exact ⟨trivial, h, trivial, trivial, trivial⟩

theorem encode_member (m : Member) : Member.codec.encode m = m.form := by
  simp only [Member.codec, MemberKey.codec, Codec.imap, Codec.pair, Codec.octets, Codec.encode_u8,
    Member.form, List.singleton_append]

/-- Settings are written field by field. -/
theorem encode_eq_body (s : Settings) : layout.codec.encode s = s.body := by
  have hmembers : s.members.flatMap Member.codec.encode = s.members.flatMap Member.form :=
    List.flatMap_congr fun m _ => encode_member m
  have hindex : Codec.u128.encode s.index = leBytes 16 s.index.toNat := rfl
  have hcount : (Codec.count 4).encode s.members.length = leBytes 4 s.members.length := rfl
  simp only [layout, Codec.imap, Codec.pair, Codec.listOf, Codec.encode_u8, hindex, hcount,
    hmembers, body, List.append_assoc, List.singleton_append]

/-- What follows from knowing which data a reader accepts. No form starts with another
    one, since both would have to be read from it. -/
theorem readsFront_of_iff (read : Bytes → Except LayoutError Settings)
    (form : Settings → Bytes)
    (h : ∀ data s, read data = .ok s ↔ s.members.length < 2 ^ 32 ∧ form s <+: data) :
    ReadsFront read form where
  tail s tail hfits := (h _ s).mpr ⟨hfits, List.prefix_append _ _⟩
  front data s hread := (h data s).mp hread
  cut s front back hfits hform hback := by
    cases hread : read front with
    | error e => exact ⟨e, rfl⟩
    | ok s' =>
        exfalso
        rcases (h front s').mp hread with ⟨hfits', hfront⟩
        have hwhole : read (form s) = .ok s' :=
          (h _ s').mpr ⟨hfits', hfront.trans ⟨back, hform.symm⟩⟩
        rw [(h _ s).mpr ⟨hfits, List.prefix_rfl⟩, Except.ok.injEq] at hwhole
        -- So the form stands in a part of itself.
        rw [← hwhole] at hfront
        have hle := hfront.length_le
        rw [hform, List.length_append] at hle
        exact hback (List.length_eq_zero_iff.mp (by omega))

/-- Compressed settings are read from any data that begin with their bytes. -/
theorem ofCompressedData_eq_ok (data : Bytes) (s : Settings) :
    ofCompressedData data = .ok s ↔ s.members.length < 2 ^ 32 ∧ s.body <+: data := by
  rw [ofCompressedData, layout.readFront_eq_ok exact_codec, encode_eq_body]

/-- The settings of an account are read behind its mark. -/
theorem ofAccountData_eq_ok (data : Bytes) (s : Settings) :
    ofAccountData data = .ok s ↔ s.members.length < 2 ^ 32 ∧ s.toAccountData <+: data := by
  unfold ofAccountData toAccountData
  simp only [Outcome.bind_eq_ok, AccountType.strip_eq_ok, layout.readFront_eq_ok exact_codec]
  constructor
  · intro h
    rcases h with ⟨rest, rfl, hfits, hfront⟩
    exact ⟨hfits, (List.prefix_append_right_inj _).mpr hfront⟩
  · intro h
    rcases h with ⟨hfits, tail, rfl⟩
    exact ⟨_, List.append_assoc _ _ _, hfits, List.prefix_append _ _⟩

/-- Both readers take settings from the front of their data. An account has the body of
    its settings behind the discriminator, and compressed data has nothing in front. -/
theorem readsFront : ReadsFront ofAccountData toAccountData ∧ ReadsFront ofCompressedData body ∧
    ∀ s : Settings, s.toAccountData = AccountType.settings.discriminator.toBytes ++ s.body :=
  ⟨readsFront_of_iff _ _ ofAccountData_eq_ok, readsFront_of_iff _ _ ofCompressedData_eq_ok,
    fun s => by rw [toAccountData, encode_eq_body]⟩

-- A wallet with one member, in an account with room for more. If the account says that there
-- are two members, the room is read as another one and as other settings.
example :
    let member (n : UInt8) : Member := ⟨.ofAddress (Octets.replicate 32 n), n⟩
    let s : Settings := ⟨7, [member 1], 1, 254, 253⟩
    let data := s.toAccountData ++ List.replicate 40 0
    let key : MemberKey := ⟨1, ⟨254 :: 253 :: List.replicate 31 0, by decide⟩⟩
    ofAccountData data = .ok s ∧
      ofAccountData (data.take 65) = .error (.undecodable "Settings" (.short 1 0)) ∧
      ofAccountData (data.set 24 2) = .ok ⟨7, [member 1, ⟨key, 0⟩], 0, 0, 0⟩ := by
  decide +kernel

end Settings

end Cosigner
