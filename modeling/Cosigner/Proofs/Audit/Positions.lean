import Cosigner.Proofs.Audit.Dealing

/-!
# Places in a Transaction

Responses carry no name, so which response approves what is a matter of places
alone. A place is counted over the whole transaction: the references to signed
messages of all instructions that have an obligation, in the order of the
instructions, and within one in the order of its request. The response at a
place is for the passkey that the reference at that place names.

This module shows that the count is kept from one end to the other. On the side
of the transaction, routing turns references into passkeys one for one. On the
side of the responses, verifying is one pass that takes a response for each
passkey. What is reported has the same order again.

If the numbers of references and responses differ, there is nothing to match,
and the answer comes before any response is looked at.

## Main definitions

* `allUses`: The references to signed messages of a transaction, in order.
* `InPlace`: What is reported stands in the place where it belongs.

## Theorems

* `namedBy_tasks`: Passkeys match the references to their messages.
* `passkeyCount_eq`: There are as many passkeys as references.
* `Auditor.verifyTransaction_inPlace`: Everything reported is in its place, and
  a wrong number of responses is refused at once.
-/

namespace Cosigner

/-- The references to signed messages of all instructions that have an
    obligation, in order. -/
def allUses (program : Address) (ixs : List Instruction) : List MessageUse :=
  (obliging program ixs).flatMap (·.uses)

/-- What is reported of a transaction stands in the place where it belongs. -/
structure InPlace (a : Auditor) (cache : ClientCache) (feePayer : Address)
    (ixs : List Instruction) (messages : List SignedMessage) (rs : List TimedResponse)
    (vos : List VerifiedObligation) : Prop where
  -- There is a response for each reference.
  count : rs.length = (allUses a.verifier.program ixs).length
  -- There is an entry for each instruction that has an obligation, and each signer of the
  -- obligation is reported in its place.
  entries : List.Forall₂ (fun ix vo => ∃ o,
    (RouteContext.process ⟨a.verifier.program, a.ledger, feePayer, messages⟩ ix).result
      = .ok (some o) ∧ Settled a.verifier o vo) (obliging a.verifier.program ixs) vos
  -- The passkey that a reference names was accepted with the response at the place of the
  -- reference, and is reported at that place.
  passkeys : ∀ n use, (allUses a.verifier.program ixs)[n]? = some use →
    ∃ message r e identity wallet, messages[use.message.toNat]? = some message ∧
      message.CarriedBy ixs ∧ rs[n]? = some r ∧
      Accepted a.verifier (a.verifier.warm cache (rs.take n)) (some ⟨message.hash, use.slot⟩) r e
        identity ∧
      ((vos.flatMap (·.signers)).filter (·.isPasskey))[n]? = some (.passkey message.publicKey
        wallet ⟨r.response.client.origin, identity⟩ r.response.device.key
        (r.response.authProvider.map (·.key)))

/-- The passkeys of an obligation match the references of its instruction. -/
theorem namedBy_process (c : RouteContext) (ix : Instruction) (o : Obligation)
    (h : (c.process ix).result = .ok (some o)) :
    List.Forall₂ (Signer.NamedBy c.messages) ix.uses (o.signers.filter (·.isPasskey)) := by
  rcases c.process_signers ix o h with ⟨passkeys, hnamed, hsigners⟩
  have hplain : ((plainSigners c.feePayer ix).map Signer.plain).filter (·.isPasskey) = [] := by
    rw [List.filter_eq_nil_iff]
    intro s hs
    rcases List.mem_map.mp hs with ⟨key, _, rfl⟩
    exact Bool.false_ne_true
  -- Behind the plain signers, nothing but passkeys.
  have hpasskeys : passkeys.filter (·.isPasskey) = passkeys := by
    rw [List.filter_eq_self]
    intro s hs
    rcases Outcome.mem_of_forall₂_right _ _ _ hnamed s hs with ⟨use, _, huse⟩
    exact huse.isPasskey
  rw [hsigners, List.filter_append, hplain, List.nil_append, hpasskeys]
  exact hnamed

/-- The passkeys of obligations match the references of their instructions. -/
theorem namedBy_tasks (v : Verifier) (c : RouteContext) (ixs : List Instruction)
    (os : List Obligation)
    (h : List.Forall₂ (fun ix o => (c.process ix).result = .ok (some o)) ixs os) :
    List.Forall₂ (fun use t => Signer.NamedBy c.messages use t.1) (ixs.flatMap (·.uses))
      ((v.tasks os).filter (·.1.isPasskey)) := by
  rw [Verifier.tasks, List.filter_flatMap]
  refine List.rel_flatMap h (fun ix o ho => ?_)
  rw [List.filter_map, List.forall₂_map_right_iff]
  exact namedBy_process c ix o ho

-- Passkeys are counted over obligations and dealt with as tasks.
theorem passkeyCount_tasks (v : Verifier) (os : List Obligation) :
    Signer.passkeyCount (os.flatMap (·.signers)) =
      ((v.tasks os).filter (·.1.isPasskey)).length := by
  have hsigners : os.flatMap (·.signers) = (v.tasks os).map (·.1) := by
    rw [Verifier.tasks, List.map_flatMap]
    refine congrArg (os.flatMap ·) (funext fun o => ?_)
    rw [List.map_map]
    exact (List.map_id _).symm
  rw [hsigners, Signer.passkeyCount, List.countP_map, List.countP_eq_length_filter]
  rfl

/-- There are as many passkeys as references. -/
theorem passkeyCount_eq (v : Verifier) (c : RouteContext) (ixs : List Instruction)
    (os : List Obligation)
    (h : List.Forall₂ (fun ix o => (c.process ix).result = .ok (some o)) ixs os) :
    Signer.passkeyCount (os.flatMap (·.signers)) = (ixs.flatMap (·.uses)).length := by
  rw [passkeyCount_tasks v os]
  exact (namedBy_tasks v c ixs os h).length_eq.symm

namespace Auditor

/-- Responses are counted before any of them is looked at. -/
theorem verifyTransaction_wrongCount (a : Auditor) (cache : ClientCache) (m : TransactionMessage)
    (rs : List TimedResponse) (os : List Obligation) (h : (a.obligations m).result = .ok os)
    (hcount : Signer.passkeyCount (os.flatMap (·.signers)) ≠ rs.length) :
    a.verifyTransaction cache m rs = (⟨.error (.responseCount
      (Signer.passkeyCount (os.flatMap (·.signers))) rs.length), (a.obligations m).reads⟩,
      cache) := by
  unfold verifyTransaction verifyObligations
  simp only [h, hcount, ne_eq, not_false_eq_true, if_true, Query.refuse, Query.ofExcept,
    List.append_nil]

/-- Whatever the transaction, the ledger and the responses are: everything that is
    reported is in its place. And if the transaction is routed but the number of
    responses is wrong, that is the answer, nothing more is read, and the cache
    stays as it is. -/
theorem verifyTransaction_inPlace (a : Auditor) (cache : ClientCache) (m : TransactionMessage)
    (rs : List TimedResponse) :
    (∀ vos, (a.verifyTransaction cache m rs).1.result = .ok vos →
      ∃ feePayer ixs messages, m.feePayer = .ok feePayer ∧
        (m.decompile a.ledger.accounts).result = .ok ixs ∧ carriedMessages ixs = .ok messages ∧
        InPlace a cache feePayer ixs messages rs vos) ∧
    (∀ ixs os, (m.decompile a.ledger.accounts).result = .ok ixs →
      (a.obligations m).result = .ok os →
      rs.length ≠ (allUses a.verifier.program ixs).length →
      a.verifyTransaction cache m rs = (⟨.error (.responseCount
        (allUses a.verifier.program ixs).length rs.length), (a.obligations m).reads⟩, cache)) := by
  constructor
  · intro vos h
    rcases a.verifyTransaction_dealt cache m rs vos h with
      ⟨feePayer, ixs, messages, os, hpayer, hixs, hmessages, hos, hcount, hsettled, hdealt⟩
    refine ⟨feePayer, ixs, messages, hpayer, hixs, hmessages, ?_, ?_, ?_⟩
    · rw [← hcount]
      exact passkeyCount_eq a.verifier _ _ os hos
    · exact Outcome.forall₂_comp _ _ _ _ _ hos hsettled
    · intro n use huse
      -- The task at the place of the reference is the passkey that it names.
      have hnamed := namedBy_tasks a.verifier _ _ os hos
      rcases Outcome.getElem?_of_forall₂ _ _ _ hnamed n use huse with
        ⟨⟨signer, wallet⟩, htask, message, hmessage, rfl⟩
      rcases hdealt.passkey_at _ _ _ _ _ n _ _ _ htask with
        ⟨r, e, identity, hr, haccepted, hreported⟩
      exact ⟨message, r, e, identity, wallet, hmessage,
        carriedMessages_carriedBy ixs messages hmessages message (List.mem_of_getElem? hmessage),
        hr, haccepted, hreported⟩
  · intro ixs os hixs hobligations hcount
    rcases (a.obligations_eq_ok m os).mp hobligations with ⟨feePayer, ixs', _, hixs', hroute⟩
    rw [Except.ok.inj (hixs'.symm.trans hixs)] at hroute
    rcases (route_eq_ok _ _ _ _ _).mp hroute with ⟨_, messages, _, hos⟩
    have hpasskeys := passkeyCount_eq a.verifier _ _ os hos
    have hwrong := a.verifyTransaction_wrongCount cache m rs os hobligations
    rw [hpasskeys] at hwrong
    exact hwrong hcount.symm

/-! ## A transaction with one passkey -/

namespace OnePasskey

/-- The key of the device. -/
def deviceKey : String :=
  "eyJrdHkiOiJPS1AiLCJjcnYiOiJFZDI1NTE5IiwieCI6Ik8yb252TTYycEMxaW82" ++
  "alFLbThOYzJVeUZYY2Q0a09tT3NCSW9ZdFoyaWsifQ"

/-- The key of the client. -/
def clientKey : String :=
  "eyJrdHkiOiJPS1AiLCJjcnYiOiJFZDI1NTE5IiwieCI6ImlvamozWFFKOFpYOVV0" ++
  "c3RQTHBkY3NwbkNiOGRsQkliODNTSUFiUVBiMXcifQ"

/-- The client data of the assertion. -/
def clientData : String :=
  "eyJ0eXBlIjoid2ViYXV0aG4uZ2V0IiwiY2hhbGxlbmdlIjoiT0tHX3BuN19QaGZV" ++
  "WXgwaGhzNm5hWE9yY2lMVjd5STBKTnVWLU9Yc2xXVSIsIm9yaWdpbiI6Imh0dHBz" ++
  "Oi8vYXBwLmV4YW1wbGUifQ"

/-- The token of the device. -/
def deviceToken : String :=
  "eyJhbGciOiJFZERTQSJ9..-eXxSAp1bxuOwmJXGcaDPq8me-EPu6nmbUMtgqgiXA" ++
  "gombbLiozS7_bAjiXfKI7kYVNKNrJpLhna24-W45rsAw"

/-- The token of the client. -/
def clientToken : String :=
  "eyJhbGciOiJFZERTQSJ9..xIQ_9kDpqB30aQQAQi-xg96u5KC7Ncaj2TXOEYWZ4c" ++
  "FF64aKNiBsGMwIOD_OFHNqqWXtuyKiTb-igzJyeOjmAQ"

/-- The response. -/
def response : TimedResponse where
  response := {
    assertion := ⟨clientData, "AQ", none⟩
    client := ⟨"https://app.example", clientToken⟩
    device := ⟨deviceKey, deviceToken⟩
    authProvider := none
    request := ⟨1000, .transaction "AQID" false⟩
    slot := 5
    slotHash := "11111111111111111111111111111111"
    nonce := "first" }
  readings := ⟨100, 101, 102⟩

/-- What the authenticator signed: its data and the digest of the client data. -/
def signedBytes : Bytes :=
  match Base64.decodeUrl clientData with
  | .ok bs => 1 :: (Sha256.digest bs).toBytes
  | .error _ => []

/-- Instruction data with two signed messages. The second is the authenticator's. -/
def signatures : Bytes :=
  match verifyInstruction [
    ⟨.replicate 33 11, .replicate 64 0, [7]⟩,
    ⟨.replicate 33 12, .replicate 64 0, signedBytes⟩] with
  | some ix => ix.data
  | none => []

/-- An address of the transaction. -/
def key (n : UInt8) : Address := .replicate 32 n

/-- Creating accounts, which the second key signs for. -/
def creation : Instruction where
  program := Program.wallet
  accounts := [⟨key 1, .payer⟩, ⟨key 2, .payer⟩]
  data := Operation.createUserAccounts.encode .createUserAccounts ⟨[], none⟩

/-- Changing the settings of a wallet, which the second key and a passkey sign
    for. -/
def change : Instruction where
  program := Program.wallet
  accounts := [⟨key 3, ⟨false, true⟩⟩, ⟨key 2, .payer⟩]
  data := Operation.changeConfig.encode .changeConfig ⟨[.setThreshold 1], [⟨1, 5⟩]⟩

/-- The transaction: the messages, and the two instructions. -/
def transaction : TransactionMessage where
  signers := 2
  readonlySigners := 0
  readonlyNonSigners := 2
  keys := [key 1, key 2, key 3, Program.wallet, Program.passkeyVerifier]
  instructions := [⟨4, [], signatures⟩, ⟨3, [0, 1], creation.data⟩, ⟨3, [2, 1], change.data⟩]
  lookups := []

/-- The obligations of the transaction. -/
def routed : List Obligation := [
  ⟨none, [.plain (key 2)], [creation]⟩,
  ⟨some (key 3), [.plain (key 2),
    .passkey (.replicate 33 12) (some ⟨Sha256.digest signedBytes, 5⟩)], [change]⟩]

/-- What is reported of the transaction. -/
def reported : List VerifiedObligation :=
  let vault := some (.ofNatBE 32 0xf2aa5018ac11daa90208d17c1ece12a0b38be8d4e860c7285e85096fc32e1d76)
  let client : VerifiedClient := ⟨"https://app.example", ⟨clientKey, none, 102⟩⟩
  [⟨none, [.plain (key 2) none], [creation]⟩,
    ⟨some (key 3), [.plain (key 2) vault, .passkey (.replicate 33 12) vault client deviceKey none],
      [change]⟩]

/-- Real signature schemes, an empty ledger, and a client that publishes its key. -/
def auditor : Auditor where
  ledger := ⟨fun _ => .ok none, fun _ => .ok none⟩
  verifier := ⟨Program.wallet, .standard, 1000, fun _ => .ok ⟨some clientKey, none⟩⟩

end OnePasskey

open OnePasskey in
/-- The only response is for the passkey of the last instruction, behind two plain
    signers and a message that no instruction refers to. Without a response the
    transaction is refused. -/
theorem verifyTransaction_inPlace_onePasskey :
    (auditor.verifyTransaction .empty transaction [response]).1.result = .ok reported ∧
    (∃ feePayer ixs messages, transaction.feePayer = .ok feePayer ∧
      (transaction.decompile auditor.ledger.accounts).result = .ok ixs ∧
      carriedMessages ixs = .ok messages ∧
      InPlace auditor .empty feePayer ixs messages [response] reported) ∧
    auditor.verifyTransaction .empty transaction [] =
      (⟨.error (.responseCount 1 0), []⟩, .empty) := by
  let ixs := [⟨Program.passkeyVerifier, [], signatures⟩, creation, change]
  have hreported : (auditor.verifyTransaction .empty transaction [response]).1.result
      = .ok reported := by decide +kernel
  have hixs : (transaction.decompile auditor.ledger.accounts).result = .ok ixs := by
    decide +kernel
  have hrouted : (auditor.obligations transaction).result = .ok routed := by decide +kernel
  have hreads : (auditor.obligations transaction).reads = [] := by decide +kernel
  have hsize : (allUses auditor.verifier.program ixs).length = 1 := by decide +kernel
  -- One reference and no response: the second half of the theorem.
  have hmissing := (verifyTransaction_inPlace auditor .empty transaction []).2 ixs routed hixs
    hrouted (by rw [hsize]; exact Nat.zero_ne_one)
  rw [hsize, hreads] at hmissing
  exact ⟨hreported, (verifyTransaction_inPlace auditor .empty transaction [response]).1 reported
    hreported, hmissing⟩

end Auditor

end Cosigner
