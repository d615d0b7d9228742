import Cosigner.Proofs.Audit.Routing

/-!
# The Signers of an Instruction, in Order

Responses are matched with signers by their places, so it is not enough to know who the
signers of an instruction are. The list itself has to be known. Its two parts follow
opposite rules. Of the plain signers each key is there once, however often an account
with this key is handed over, and with whatever flags. Of the passkeys none is left out,
even if two references name the same message.

The order of the plain signers is that of the first accounts that count. An account in
front with the same key but without the signer flag does not move a key to the front, so
the place of a key is not that of its first account. It is the place of the first account
with the flag. These places decide the list: there is one list only that has the right
keys, each once, with ascending places.

## Main definitions

* `Instruction.firstSigned`: The place of the first account that makes a key a signer.
* `Instruction.SignedBy`: The plain signers of an instruction.

## Theorems

* `pairwise_plainSigners`: Plain signers are in the order of their places.
* `Instruction.SignedBy.unique`: There is one list of plain signers.
* `Signer.ofUse_eq_error`, `signersOf_eq_error`: A message that is not there.
* `passkeyCount_signersOf`: One passkey for each reference.
* `signersOf_listed`: The list of signers.
-/

namespace Cosigner

namespace Instruction

/-- The place of the first account with a key and the signer flag. -/
def firstSigned (ix : Instruction) (key : Address) : Nat :=
  ix.accounts.findIdx fun ref => ref.role.signer && ref.key = key

/-- The keys of the accounts with the signer flag, without the key that pays: each once,
    in the order of the first account that has the key and the flag. -/
structure SignedBy (ix : Instruction) (feePayer : Address) (keys : List Address) : Prop where
  mem_iff : ∀ key, key ∈ keys ↔
    (∃ ref ∈ ix.accounts, ref.key = key ∧ ref.role.signer = true) ∧ key ≠ feePayer
  nodup : keys.Nodup
  inOrder : keys.Pairwise fun a b => ix.firstSigned a < ix.firstSigned b

/-- An instruction has one list of plain signers, as their first places ascend. -/
theorem SignedBy.unique (ix : Instruction) (feePayer : Address) (keys keys' : List Address)
    (h : ix.SignedBy feePayer keys) (h' : ix.SignedBy feePayer keys') : keys = keys' := by
  have hperm : keys.Perm keys' := by
    rw [List.perm_ext_iff_of_nodup h.nodup h'.nodup]
    intro key
    rw [h.mem_iff, h'.mem_iff]
  exact List.Perm.eq_of_pairwise (fun a b _ _ hab hba => absurd hab (Nat.lt_asymm hba))
    h.inOrder h'.inOrder hperm

end Instruction

section

variable (program : Address) (ref : AccountRef) (rest : List AccountRef) (data : Bytes)

-- The first place of a signer, counted from the front.
theorem firstSigned_cons (key : Address) :
    Instruction.firstSigned ⟨program, ref :: rest, data⟩ key =
      if ref.role.signer = true ∧ ref.key = key then 0
      else Instruction.firstSigned ⟨program, rest, data⟩ key + 1 := by
  simp only [Instruction.firstSigned, List.findIdx_cons, cond_eq_ite, Bool.and_eq_true,
    decide_eq_true_eq]

-- An account in front that makes none of the keys a signer does not change their order.
theorem pairwise_firstSigned_cons (keys : List Address)
    (hother : ∀ key ∈ keys, ¬ (ref.role.signer = true ∧ ref.key = key))
    (h : keys.Pairwise fun a b => Instruction.firstSigned ⟨program, rest, data⟩ a <
      Instruction.firstSigned ⟨program, rest, data⟩ b) :
    keys.Pairwise fun a b => Instruction.firstSigned ⟨program, ref :: rest, data⟩ a <
      Instruction.firstSigned ⟨program, ref :: rest, data⟩ b := by
  refine List.Pairwise.imp_of_mem (fun {a b} ha hb hab => ?_) h
  rw [firstSigned_cons, firstSigned_cons, if_neg (hother a ha), if_neg (hother b hb)]
  exact Nat.succ_lt_succ hab

/-- A signer in front comes first, and its repetitions are left out. -/
theorem plainSigners_cons (feePayer : Address) :
    plainSigners feePayer ⟨program, ref :: rest, data⟩ =
      if ref.role.signer = true ∧ ref.key ≠ feePayer then
        ref.key :: (plainSigners feePayer ⟨program, rest, data⟩).filter (· ≠ ref.key)
      else plainSigners feePayer ⟨program, rest, data⟩ := by
  by_cases hcounts : ref.role.signer = true ∧ ref.key ≠ feePayer
  · simp only [plainSigners, List.filter_cons, hcounts.1, hcounts.2, ne_eq, not_false_eq_true,
      decide_true, Bool.and_self, if_true, and_self, List.map_cons, firstOccurrences]
  · have hcond : (ref.role.signer && decide (ref.key ≠ feePayer)) = false := by
      rwa [Bool.eq_false_iff, ne_eq, Bool.and_eq_true, decide_eq_true_eq]
    simp only [plainSigners, List.filter_cons, hcond, hcounts, if_false, Bool.false_eq_true]

end

/-- Plain signers are in the order of the first accounts that make them signers. -/
theorem pairwise_plainSigners (feePayer : Address) (ix : Instruction) :
    (plainSigners feePayer ix).Pairwise fun a b => ix.firstSigned a < ix.firstSigned b := by
  rcases ix with ⟨program, accounts, data⟩
  induction accounts with
  | nil => exact List.Pairwise.nil
  | cons ref rest ih =>
      rw [plainSigners_cons]
      by_cases hcounts : ref.role.signer = true ∧ ref.key ≠ feePayer
      · -- The key of the account comes first and is taken out of the others.
        rw [if_pos hcounts, List.pairwise_cons]
        have hother : ∀ key ∈ (plainSigners feePayer ⟨program, rest, data⟩).filter (· ≠ ref.key),
            ¬ (ref.role.signer = true ∧ ref.key = key) := by
          intro key hkey hc
          exact of_decide_eq_true (List.mem_filter.mp hkey).2 hc.2.symm
        refine ⟨fun key hkey => ?_, ?_⟩
        · rw [firstSigned_cons, firstSigned_cons, if_pos ⟨hcounts.1, rfl⟩,
            if_neg (hother key hkey)]
          exact Nat.succ_pos _
        · exact pairwise_firstSigned_cons program ref rest data _ hother (ih.filter _)
      · -- The account is without the flag, or it pays.
        rw [if_neg hcounts]
        refine pairwise_firstSigned_cons program ref rest data _ (fun key hkey hc => ?_) ih
        have hne := ((mem_plainSigners feePayer ⟨program, rest, data⟩ key).mp hkey).2
        exact hcounts ⟨hc.1, hc.2 ▸ hne⟩

theorem signedBy_plainSigners (feePayer : Address) (ix : Instruction) :
    ix.SignedBy feePayer (plainSigners feePayer ix) :=
  ⟨mem_plainSigners feePayer ix, nodup_plainSigners feePayer ix, pairwise_plainSigners feePayer ix⟩

/-- A reference beyond the messages is refused with its number and with how many there
    are. -/
theorem Signer.ofUse_eq_error (messages : List SignedMessage) (use : MessageUse) (r : Refusal) :
    ofUse messages use = .error r ↔
      decide (messages.length ≤ use.message.toNat) = true ∧
        Refusal.missingSignedMessage use.message messages.length = r := by
  unfold ofUse
  rw [decide_eq_true_eq, ← List.getElem?_eq_none_iff]
  cases messages[use.message.toNat]? with
  | none => simp only [Except.error.injEq, true_and]
  | some m => simp only [reduceCtorEq, false_and]

/-- The first reference to a message that is not there is the one reported. -/
theorem signersOf_eq_error (feePayer : Address) (messages : List SignedMessage)
    (ix : Instruction) (uses : List MessageUse) (r : Refusal) :
    signersOf feePayer messages ix uses = .error r ↔
      ∃ use, uses.find? (fun use => messages.length ≤ use.message.toNat) = some use ∧
        .missingSignedMessage use.message messages.length = r := by
  rw [signersOf, Outcome.bind_pure_eq_error,
    Outcome.mapM_eq_error_of_bad _ _ _ (Signer.ofUse_eq_error messages), Option.map_eq_some_iff]

theorem Signer.exists_namedBy (messages : List SignedMessage) (use : MessageUse) :
    (∃ s, NamedBy messages use s) ↔ use.message.toNat < messages.length := by
  constructor
  · intro h
    rcases h with ⟨_, m, hm, _⟩
    exact (List.getElem?_eq_some_iff.mp hm).1
  · intro h
    exact ⟨_, _, List.getElem?_eq_getElem h, rfl⟩

/-- Signers are known exactly if all references are to messages that are there. -/
theorem signersOf_isOk (feePayer : Address) (messages : List SignedMessage)
    (ix : Instruction) (uses : List MessageUse) :
    (∃ signers, signersOf feePayer messages ix uses = .ok signers) ↔
      ∀ use ∈ uses, use.message.toNat < messages.length := by
  simp only [signersOf_eq_ok, ← Signer.exists_namedBy, ← Outcome.exists_forall₂]
  constructor
  · intro h
    rcases h with ⟨_, passkeys, hnamed, _⟩
    exact ⟨passkeys, hnamed⟩
  · intro h
    rcases h with ⟨passkeys, hnamed⟩
    exact ⟨_, passkeys, hnamed, rfl⟩

/-- One passkey for each reference. -/
theorem passkeyCount_signersOf (feePayer : Address) (messages : List SignedMessage)
    (ix : Instruction) (uses : List MessageUse) (signers : List Signer)
    (h : signersOf feePayer messages ix uses = .ok signers) :
    Signer.passkeyCount signers = uses.length := by
  rcases (signersOf_eq_ok _ _ _ _ _).mp h with ⟨passkeys, hnamed, rfl⟩
  have hplain : ((plainSigners feePayer ix).map Signer.plain).countP Signer.isPasskey = 0 := by
    rw [List.countP_map]
    exact List.countP_eq_zero.mpr fun key _ => Bool.false_ne_true
  have hpasskeys : passkeys.countP Signer.isPasskey = passkeys.length := by
    refine List.countP_eq_length.mpr fun s hs => ?_
    rcases Outcome.mem_of_forall₂_right _ _ _ hnamed s hs with ⟨use, _, huse⟩
    exact huse.isPasskey
  rw [Signer.passkeyCount, List.countP_append, hplain, hpasskeys, Nat.zero_add, hnamed.length_eq]

/-- The list of signers of an instruction. A reference to a signed message that is not
    there is refused, and of several such references the first is named, with the number
    of messages that there are. Without one, the list is there: the keys of the accounts
    with the signer flag other than the one that pays, each once and in the order of the
    first account with this key and the flag, and then one passkey for each reference, in
    their order, with key and hash of the message and the slot of the reference. So an
    obligation has as many passkeys as there are references. -/
theorem signersOf_listed (feePayer : Address) (messages : List SignedMessage)
    (ix : Instruction) (uses : List MessageUse) :
    (∀ r, signersOf feePayer messages ix uses = .error r ↔
      ∃ use, uses.find? (fun use => messages.length ≤ use.message.toNat) = some use ∧
        .missingSignedMessage use.message messages.length = r) ∧
    (∀ r, signersOf feePayer messages ix uses = .error r → r.name = "SignedMessageNotFound") ∧
    ((∃ signers, signersOf feePayer messages ix uses = .ok signers) ↔
      ∀ use ∈ uses, use.message.toNat < messages.length) ∧
    (∀ signers, signersOf feePayer messages ix uses = .ok signers ↔
      ∃ keys passkeys, ix.SignedBy feePayer keys ∧
        List.Forall₂ (Signer.NamedBy messages) uses passkeys ∧
        signers = keys.map .plain ++ passkeys) ∧
    ∀ o : Obligation, signersOf feePayer messages ix uses = .ok o.signers →
      o.passkeyCount = uses.length := by
  refine ⟨signersOf_eq_error feePayer messages ix uses, fun r h => ?_,
    signersOf_isOk feePayer messages ix uses, fun signers => ?_,
    fun o h => passkeyCount_signersOf feePayer messages ix uses o.signers h⟩
  · rcases (signersOf_eq_error feePayer messages ix uses r).mp h with ⟨use, _, rfl⟩
    rfl
  · rw [signersOf_eq_ok]
    constructor
    · intro h
      rcases h with ⟨passkeys, hnamed, hsigners⟩
      exact ⟨_, passkeys, signedBy_plainSigners feePayer ix, hnamed, hsigners⟩
    · intro h
      rcases h with ⟨keys, passkeys, hsigned, hnamed, hsigners⟩
      have hkeys := hsigned.unique ix feePayer keys _ (signedBy_plainSigners feePayer ix)
      exact ⟨passkeys, hnamed, by rw [hsigners, hkeys]⟩

/-- The second key comes first, as the account in front with the first key lacks the flag,
    and its repetitions are dropped; both references to one message are kept. A reference
    that is one too high is reported, not the one behind it. -/
theorem signersOf_listed_repeated :
    let key (n : UInt8) : Address := Octets.replicate 32 n
    let message (n : UInt8) : SignedMessage := ⟨Octets.replicate 33 n, [n], Octets.replicate 32 n⟩
    let ix : Instruction := ⟨key 9, [⟨key 1, .payer⟩, ⟨key 2, .plain⟩, ⟨key 3, ⟨true, false⟩⟩,
      ⟨key 2, .payer⟩, ⟨key 3, .payer⟩, ⟨key 2, .plain⟩, ⟨key 1, .plain⟩], []⟩
    let signers : List Signer := [.plain (key 3), .plain (key 2),
      .passkey (message 5).publicKey (some ⟨key 5, 70⟩),
      .passkey (message 4).publicKey (some ⟨key 4, 80⟩),
      .passkey (message 5).publicKey (some ⟨key 5, 70⟩)]
    let messages := [message 4, message 5]
    let uses : List MessageUse := [⟨1, 70⟩, ⟨0, 80⟩, ⟨1, 70⟩]
    signersOf (key 1) messages ix uses = .ok signers ∧
      Obligation.passkeyCount ⟨none, signers, [ix]⟩ = 3 ∧
      signersOf (key 1) messages ix [⟨1, 70⟩, ⟨2, 0⟩, ⟨7, 0⟩] =
        .error (.missingSignedMessage 2 2) := by
  intro key message ix signers messages uses
  have hok : signersOf (key 1) messages ix uses = .ok signers := by decide +kernel
  have hcount := (signersOf_listed (key 1) messages ix uses).2.2.2.2 ⟨none, signers, [ix]⟩ hok
  have herror := (signersOf_listed (key 1) messages ix [⟨1, 70⟩, ⟨2, 0⟩, ⟨7, 0⟩]).1
  exact ⟨hok, hcount, (herror _).mpr ⟨⟨2, 0⟩, by decide +kernel, rfl⟩⟩

end Cosigner
