import Cosigner.Proofs.Message.Wire
import Cosigner.Wallet.Arguments

/-!
# The Layouts of Arguments Are Exact

The arguments of an operation nest lists, optional values, alternatives, texts
and numbers. Their layouts are put together from exact ones, so that they are
exact is a matter of following their definitions. The only layout that has to be
looked into is the one with alternatives, where the tag decides how to go on.

What is left as a condition are lengths. Each list and each text has its length
in four bytes, so the values that fit are those whose lists and texts are shorter
than that can count.

## Main definitions

* `ConfigAction.Fits`, `ChangeConfig.Fits`, `SyncMessage.Fits`,
    `ExecuteSync.Fits`, `UserAccount.Fits`, `CreateUserAccounts.Fits`: Arguments
    whose lengths can be written.

## Theorems

* `ConfigAction.exact_codec`: The layout with alternatives.
* `ChangeConfig.exact_codec`, `TransferIntent.exact_codec`,
  `BufferCreate.exact_codec`, `ExecuteSync.exact_codec`,
  `CreateUserAccounts.exact_codec`, `EditManagerUrl.exact_codec`: The layouts of
  arguments.
* `OnCompressed.exact_codec`: The same arguments for compressed settings.
-/

namespace Cosigner

-- Layouts are put together from smaller ones, and so is the proof that they are exact.
-- A constraint comes in only with a count or a text.
theorem MessageUse.exact_codec : MessageUse.codec.Exact fun _ => True :=
  (Codec.exact_u8.pair Codec.exact_u64).imap _ _ _ (fun _ _ => ⟨trivial, rfl⟩)
    fun _ _ => ⟨⟨trivial, trivial⟩, rfl⟩

theorem CompressedRef.exact_codec : CompressedRef.codec.Exact fun _ => True :=
  (Codec.exact_u128.pair (Codec.exact_u8.pair (Codec.exact_u8.pair
    (Codec.exact_u32.pair Codec.exact_u16)))).imap _ _ _ (fun _ _ => ⟨trivial, rfl⟩)
    fun _ _ => ⟨⟨trivial, trivial, trivial, trivial, trivial⟩, rfl⟩

theorem ValidityProof.exact_codec : ValidityProof.codec.Exact fun _ => True :=
  ((Codec.exact_octets 32).pair ((Codec.exact_octets 64).pair (Codec.exact_octets 32))).imap _ _ _
    (fun _ _ => ⟨trivial, rfl⟩) fun _ _ => ⟨⟨trivial, trivial, trivial⟩, rfl⟩

theorem MemberKey.exact_codec : MemberKey.codec.Exact fun _ => True :=
  (Codec.exact_u8.pair (Codec.exact_octets 33)).imap _ _ _ (fun _ _ => ⟨trivial, rfl⟩)
    fun _ _ => ⟨⟨trivial, trivial⟩, rfl⟩

theorem Member.exact_codec : Member.codec.Exact fun _ => True :=
  (MemberKey.exact_codec.pair Codec.exact_u8).imap _ _ _ (fun _ _ => ⟨trivial, rfl⟩)
    fun _ _ => ⟨⟨trivial, trivial⟩, rfl⟩

-- Reading one value and wrapping it, which is what every alternative does.
theorem Codec.Exact.wrapped_eq_ok {α β : Type} {c : Codec α} {P : α → Prop} (hc : c.Exact P)
    (wrap : α → β) (bs : Bytes) (b : β) (rest : Bytes) :
    (do let (a, rest) ← c.decode bs; return (wrap a, rest) : Except Codec.Fault (β × Bytes))
      = .ok (b, rest) ↔ ∃ a, P a ∧ b = wrap a ∧ bs = c.encode a ++ rest := by
  simp only [Outcome.bind_eq_ok, Outcome.pure_eq_ok, Prod.exists, Prod.mk.injEq, hc bs]
  constructor
  · intro h
    rcases h with ⟨a, rest', ⟨hfits, hbs⟩, rfl, rfl⟩
    exact ⟨a, hfits, rfl, hbs⟩
  · intro h
    rcases h with ⟨a, hfits, rfl, hbs⟩
    exact ⟨a, rest, ⟨hfits, hbs⟩, rfl, rfl⟩

namespace ConfigAction

/-- A change whose list can be counted. -/
def Fits : ConfigAction → Prop
  | .addMembers members => members.length < 256 ^ 4
  | .removeMembers keys => keys.length < 256 ^ 4
  | .editPermissions members => members.length < 256 ^ 4
  | .setThreshold _ => True

/-- An action is read by its tag exactly if it fits, and then from its own bytes. -/
theorem decodeTagged_eq_ok (tag : UInt8) (bs : Bytes) (a : ConfigAction) (rest : Bytes) :
    decodeTagged tag bs = .ok (a, rest) ↔ a.Fits ∧ tag :: bs = a.encode ++ rest := by
  have hmembers := Member.exact_codec.listOf_of_all 4
  have hkeys := MemberKey.exact_codec.listOf_of_all 4
  constructor
  · intro h
    unfold decodeTagged at h
    by_cases hzero : tag = 0
    · rw [if_pos hzero, hmembers.wrapped_eq_ok] at h
      rcases h with ⟨members, hfits, rfl, rfl⟩
      exact ⟨hfits, by rw [hzero]; rfl⟩
    rw [if_neg hzero] at h
    by_cases hone : tag = 1
    · rw [if_pos hone, hkeys.wrapped_eq_ok] at h
      rcases h with ⟨keys, hfits, rfl, rfl⟩
      exact ⟨hfits, by rw [hone]; rfl⟩
    rw [if_neg hone] at h
    by_cases htwo : tag = 2
    · rw [if_pos htwo, hmembers.wrapped_eq_ok] at h
      rcases h with ⟨members, hfits, rfl, rfl⟩
      exact ⟨hfits, by rw [htwo]; rfl⟩
    rw [if_neg htwo, Outcome.throw_eq, Outcome.ite_else_error_eq_ok,
      Codec.exact_u8.wrapped_eq_ok] at h
    rcases h with ⟨hthree, threshold, hfits, rfl, rfl⟩
    exact ⟨hfits, by rw [hthree]; rfl⟩
  · intro h
    rcases h with ⟨hfits, hbs⟩
    cases a with
    | addMembers members =>
        rw [encode, List.cons_append, List.cons.injEq] at hbs
        rw [hbs.1, decodeTagged, if_pos rfl, hmembers.wrapped_eq_ok]
        exact ⟨members, hfits, rfl, hbs.2⟩
    | removeMembers keys =>
        rw [encode, List.cons_append, List.cons.injEq] at hbs
        rw [hbs.1, decodeTagged, if_neg (by decide), if_pos rfl, hkeys.wrapped_eq_ok]
        exact ⟨keys, hfits, rfl, hbs.2⟩
    | editPermissions members =>
        rw [encode, List.cons_append, List.cons.injEq] at hbs
        rw [hbs.1, decodeTagged, if_neg (by decide), if_neg (by decide), if_pos rfl,
          hmembers.wrapped_eq_ok]
        exact ⟨members, hfits, rfl, hbs.2⟩
    | setThreshold threshold =>
        rw [encode, List.cons_append, List.cons.injEq] at hbs
        rw [hbs.1, decodeTagged, if_neg (by decide), if_neg (by decide), if_neg (by decide),
          if_pos rfl, Codec.exact_u8.wrapped_eq_ok]
        exact ⟨threshold, hfits, rfl, hbs.2⟩

/-- The tag of a change decides what follows it, and no two changes share one. -/
theorem exact_codec : codec.Exact Fits := by
  intro bs a rest
  simp only [codec, Outcome.bind_eq_ok, Prod.exists, Codec.exact_u8 bs, true_and,
    decodeTagged_eq_ok, Codec.encode_u8, List.singleton_append]
  constructor
  · intro h
    rcases h with ⟨tag, contents, hbs, hfits, hform⟩
    exact ⟨hfits, hbs.trans hform⟩
  · intro h
    rcases h with ⟨hfits, hbs⟩
    -- Every change has a tag in front.
    have htag : ∃ tag contents, a.encode = tag :: contents := by
      cases a with
      | _ => exact ⟨_, _, rfl⟩
    rcases htag with ⟨tag, contents, hform⟩
    exact ⟨tag, contents ++ rest, by rw [hbs, hform]; rfl, hfits, by rw [hform]; rfl⟩

end ConfigAction

/-- A change of settings whose lists can be counted. -/
structure ChangeConfig.Fits (c : ChangeConfig) : Prop where
  actionCount : c.actions.length < 256 ^ 4
  actions : ∀ a ∈ c.actions, a.Fits
  useCount : c.uses.length < 256 ^ 4

/-- A change fits if its actions do and if all lists have room for their counts. -/
theorem ChangeConfig.exact_codec : ChangeConfig.codec.Exact Fits := by
  refine ((ConfigAction.exact_codec.listOf 4).pair
    (MessageUse.exact_codec.listOf_of_all 4)).imap _ _ _
    (fun parts h => ⟨?_, rfl⟩) (fun c h => ⟨?_, rfl⟩)
  · exact ⟨h.1.1, h.1.2, h.2⟩
  · exact ⟨⟨h.actionCount, h.actions⟩, h.useCount⟩

theorem TransferIntent.exact_codec : TransferIntent.codec.Exact fun _ => True :=
  (Codec.exact_u64.pair MessageUse.exact_codec.option).imap _ _ _ (fun _ _ => ⟨trivial, rfl⟩)
    fun _ _ => ⟨⟨trivial, fun _ _ => trivial⟩, rfl⟩

/-- The creation of a buffer fits if the length of the buffer does. -/
theorem BufferCreate.exact_codec :
    BufferCreate.codec.Exact fun b => b.buffer.length < 256 ^ 4 := by
  refine (Codec.exact_u8.pair (Codec.exact_flag.pair ((Codec.exact_octets 32).pair
    (Codec.exact_u16.pair ((Codec.exact_blob 4).pair MessageUse.exact_codec.option))))).imap _ _ _
    (fun parts h => ⟨?_, rfl⟩) (fun b h => ⟨?_, rfl⟩)
  · exact h.2.2.2.2.1
  · exact ⟨trivial, trivial, trivial, trivial, h, fun _ _ => trivial⟩

/-- An instruction whose lengths can be written in program data. -/
structure IndexedInstruction.FitsWide (ix : IndexedInstruction) : Prop where
  accounts : ix.accounts.length < 256 ^ 4
  data : ix.data.length < 256 ^ 4

-- Counts have two bytes here, where transactions have one.
theorem IndexedInstruction.exact_wideCodec : wideCodec.Exact FitsWide := by
  refine (Codec.exact_u8.pair ((Codec.exact_blob 4).pair (Codec.exact_blob 4))).imap _ _ _
    (fun parts h => ⟨?_, rfl⟩) (fun ix h => ⟨?_, rfl⟩)
  · exact ⟨h.2.1, h.2.2⟩
  · exact ⟨trivial, h.accounts, h.data⟩

/-- A message that is executed at once and whose lists can be counted. -/
structure SyncMessage.Fits (m : SyncMessage) : Prop where
  instructionCount : m.instructions.length < 256 ^ 4
  instructions : ∀ ix ∈ m.instructions, ix.FitsWide

/-- A message fits if its keys and its instructions do. -/
theorem SyncMessage.exact_codec : SyncMessage.codec.Exact Fits := by
  refine (Header.exact_codec.pair (Codec.exact_u8.pair
    ((IndexedInstruction.exact_wideCodec.listOf 4).pair Codec.exact_u8))).imap _ _ _
    (fun parts h => ⟨?_, rfl⟩) (fun m h => ⟨?_, rfl⟩)
  · exact ⟨h.2.2.1.1, h.2.2.1.2⟩
  · exact ⟨trivial, trivial, ⟨h.instructionCount, h.instructions⟩, trivial⟩

/-- An execution whose lists can be counted. -/
structure ExecuteSync.Fits (e : ExecuteSync) : Prop where
  message : e.message.Fits
  useCount : e.uses.length < 256 ^ 4

theorem ExecuteSync.exact_codec : ExecuteSync.codec.Exact Fits := by
  refine (SyncMessage.exact_codec.pair (MessageUse.exact_codec.listOf_of_all 4)).imap _ _ _
    (fun parts h => ⟨?_, rfl⟩) (fun e h => ⟨?_, rfl⟩)
  · exact ⟨h.1, h.2⟩
  · exact ⟨h.message, h.useCount⟩

/-- A user account whose text can be counted. -/
def UserAccount.Fits (u : UserAccount) : Prop :=
  ∀ url ∈ u.managerUrl, (Utf8.encode url).length < 256 ^ 4

-- The text is the only part of an account that can be too long.
theorem UserAccount.exact_codec : UserAccount.codec.Exact Fits := by
  refine (MemberKey.exact_codec.pair (Codec.exact_flag.pair Codec.exact_text.option)).imap _ _ _
    (fun parts h => ⟨?_, rfl⟩) (fun u h => ⟨?_, rfl⟩)
  · exact h.2.2
  · exact ⟨trivial, trivial, h⟩

/-- A creation of user accounts whose list and texts can be counted. -/
structure CreateUserAccounts.Fits (c : CreateUserAccounts) : Prop where
  userCount : c.users.length < 256 ^ 4
  users : ∀ u ∈ c.users, u.Fits

theorem CreateUserAccounts.exact_codec : CreateUserAccounts.codec.Exact Fits := by
  refine ((UserAccount.exact_codec.listOf 4).pair MessageUse.exact_codec.option).imap _ _ _
    (fun parts h => ⟨?_, rfl⟩) (fun c h => ⟨?_, rfl⟩)
  · exact ⟨h.1.1, h.1.2⟩
  · exact ⟨⟨h.userCount, h.users⟩, fun _ _ => trivial⟩

theorem EditManagerUrl.exact_codec :
    EditManagerUrl.codec.Exact fun e => (Utf8.encode e.url).length < 256 ^ 4 :=
  Codec.exact_text.imap _ _ _ (fun _ h => ⟨h, rfl⟩) fun _ h => ⟨h, rfl⟩

/-- Arguments for compressed settings fit if the arguments of the operation
    itself do. -/
theorem OnCompressed.exact_codec {α : Type} {c : Codec α} {Fits : α → Prop} (hc : c.Exact Fits) :
    (OnCompressed.codec c).Exact fun a => Fits a.arguments := by
  refine (CompressedRef.exact_codec.pair (hc.pair ValidityProof.exact_codec.option)).imap _ _ _
    (fun parts h => ⟨?_, rfl⟩) (fun a h => ⟨?_, rfl⟩)
  · exact h.2.1
  · exact ⟨trivial, h, fun _ _ => trivial⟩

end Cosigner
