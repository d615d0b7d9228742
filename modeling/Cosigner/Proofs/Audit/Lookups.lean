import Cosigner.Proofs.Audit.Dealing
import Cosigner.Proofs.Client.Cache

/-!
# What Verifying Does to the Cache

The check of a passkey has many ways to end, and a client is looked up in the
middle of it. It would be natural to stop as soon as something is refused, and
no verdict would be any different. The cache would be: what is kept of a client
would then depend on whether the device's token was valid, and on whether some
other signer was refused first.

So none of the checks are cut short. Which clients are looked up is settled by
the responses alone, before any check has an outcome. These are the clients of
the responses that can be answered: in time, for a transaction, and readable.
They are looked up in the order of the responses, once for each of them, and no
other client is. If the number of responses is wrong, nothing is looked up at
all.

## Main definitions

* `TimedResponse.Answerable`: A response whose client is looked up.
* `lookUpsOf`: The lookups of responses, in order.
* `Verifier.LooksUp`: What verifying does to the cache.

## Theorems

* `TimedResponse.answerable_iff`: Answerable responses are those that decode.
* `Verifier.verifyEach_reads`: What signers verified one after another read.
* `Verifier.warm_eq`: The cache that they leave.
* `Verifier.verify_looksUp`: What verifying does to the cache, whatever comes of
  it.
-/

namespace Cosigner

/-- A response that has not run out and that can be read: it is for a
    transaction, and its assertion, its payload and its slot hash decode. -/
structure TimedResponse.Answerable (r : TimedResponse) : Prop where
  inTime : r.readings.checked ≤ r.response.request.validTill
  spelled : ∃ e : Evidence, e.SpelledBy r.response

-- A response is answerable if the checks in front of its lookup let it through.
theorem TimedResponse.answerable_iff (r : TimedResponse) :
    r.Answerable ↔ ∃ a, Approval.ofResponse r.readings.checked r.response = .ok a := by
  constructor
  · intro h
    rcases h.spelled with ⟨e, he⟩
    exact ⟨e.approval r.response, (Approval.ofResponse_eq_ok _ _ _).mpr ⟨h.inTime, e, he, rfl⟩⟩
  · intro h
    rcases h with ⟨a, ha⟩
    rcases (Approval.ofResponse_eq_ok _ _ _).mp ha with ⟨htime, e, he, _⟩
    exact ⟨htime, e, he⟩

instance : DecidablePred TimedResponse.Answerable := fun r =>
  match h : Approval.ofResponse r.readings.checked r.response with
  | .ok a => .isTrue (r.answerable_iff.mpr ⟨a, h⟩)
  | .error _ => .isFalse fun hr => Exists.elim (r.answerable_iff.mp hr) fun _ ha =>
    absurd (h.symm.trans ha) (by simp only [reduceCtorEq, not_false_eq_true])

/-- The lookup of a response's client. -/
def TimedResponse.lookUp (r : TimedResponse) : LookUp :=
  ⟨r.response.client.origin, r.readings.lookedUp, r.readings.stored⟩

/-- The lookups of the responses that can be answered, in order. -/
def lookUpsOf (rs : List TimedResponse) : List LookUp :=
  (rs.filter fun r => r.Answerable).map (·.lookUp)

theorem lookUpsOf_cons (r : TimedResponse) (rs : List TimedResponse) :
    lookUpsOf (r :: rs) = lookUpsOf [r] ++ lookUpsOf rs := by
  rw [lookUpsOf, lookUpsOf, lookUpsOf, ← List.map_append, ← List.filter_append,
    List.singleton_append]

namespace Verifier

variable (v : Verifier)

-- A response is either decoded, and then its client is looked up, or it is not.
theorem ofResponse_cases (r : TimedResponse) :
    (∃ a, Approval.ofResponse r.readings.checked r.response = .ok a ∧
        lookUpsOf [r] = [r.lookUp]) ∨
      ∃ refusal, Approval.ofResponse r.readings.checked r.response = .error refusal ∧
        lookUpsOf [r] = [] := by
  cases hdecoded : Approval.ofResponse r.readings.checked r.response with
  | ok a =>
      have hr := r.answerable_iff.mpr ⟨a, hdecoded⟩
      refine .inl ⟨a, rfl, ?_⟩
      simp only [lookUpsOf, List.filter_cons, hr, decide_true, if_true, List.filter_nil,
        List.map_cons, List.map_nil]
  | error refusal =>
      have hr : ¬ r.Answerable := by
        rw [r.answerable_iff, hdecoded]
        simp only [reduceCtorEq, exists_false, not_false_eq_true]
      refine .inr ⟨refusal, rfl, ?_⟩
      simp only [lookUpsOf, List.filter_cons, hr, decide_false, Bool.false_eq_true, if_false,
        List.filter_nil, List.map_nil]

/-- Verifying a passkey reads what the lookup of its response's client reads,
    whatever the checks come to. -/
theorem verifyPasskey_reads (wallet : Option Address) (cache : ClientCache) (key : Passkey)
    (proof : Option PasskeyProof) (r : TimedResponse) :
    (v.verifyPasskey wallet cache key proof r).1.reads
      = (cache.lookUps v.lifetime v.fetch (lookUpsOf [r])).1 := by
  unfold verifyPasskey
  rcases ofResponse_cases r with ⟨a, ha, hlookUps⟩ | ⟨refusal, hrefusal, hlookUps⟩
  · rw [ha, hlookUps]
    exact (List.append_nil _).symm
  · rw [hrefusal, hlookUps]
    rfl

theorem afterLookUp_eq (cache : ClientCache) (r : TimedResponse) :
    v.afterLookUp cache r = (cache.lookUps v.lifetime v.fetch (lookUpsOf [r])).2 := by
  unfold afterLookUp
  rcases ofResponse_cases r with ⟨a, ha, hlookUps⟩ | ⟨refusal, hrefusal, hlookUps⟩
  · rw [ha, hlookUps]
    rfl
  · rw [hrefusal, hlookUps]
    rfl

/-- The cache after responses were handled is the one that the lookups of their
    clients leave. -/
theorem warm_eq (cache : ClientCache) (rs : List TimedResponse) :
    v.warm cache rs = (cache.lookUps v.lifetime v.fetch (lookUpsOf rs)).2 := by
  induction rs generalizing cache with
  | nil => rfl
  | cons r rs ih =>
      have hwarm : v.warm cache (r :: rs) = v.warm (v.afterLookUp cache r) rs := rfl
      rw [hwarm, ih, v.afterLookUp_eq, lookUpsOf_cons r rs, ClientCache.lookUps_append]

/-- Signers verified one after another read what the lookups of their responses'
    clients read, if each passkey has a response. -/
theorem verifyEach_reads (wallet : Option Address) (expected : Nat) (cache : ClientCache)
    (signers : List Signer) (rs : List TimedResponse)
    (hcount : Signer.passkeyCount signers = rs.length) :
    (v.verifyEach wallet expected cache signers rs).1.flatMap (·.reads)
      = (cache.lookUps v.lifetime v.fetch (lookUpsOf rs)).1 := by
  have hanswered := Signer.answered_of_count signers rs hcount
  clear hcount
  induction hanswered generalizing cache with
  | nil => rfl
  | plain key signers rs _ ih =>
      -- A plain signer reads nothing.
      rw [verifyEach, List.flatMap_cons, ih cache]
      rfl
  | passkey key proof signers r rs _ ih =>
      rw [verifyEach_passkey, List.flatMap_cons, ih (v.afterLookUp cache r), v.verifyPasskey_reads,
        v.afterLookUp_eq, lookUpsOf_cons r rs, ClientCache.lookUps_append]

/-- What verifying signers does to the cache, whatever comes of it. -/
structure LooksUp (cache : ClientCache) (settings : Option Address) (signers : List Signer)
    (rs : List TimedResponse) : Prop where
  -- With a response for each passkey, the cache is the one that the clients of
  -- the answerable responses leave behind when they are looked up in order.
  leaves : Signer.passkeyCount signers = rs.length →
    (v.verify cache settings signers rs).2
      = (cache.lookUps v.lifetime v.fetch (lookUpsOf rs)).2
  -- Nothing is read but what these lookups read.
  reads : Signer.passkeyCount signers = rs.length →
    (v.verify cache settings signers rs).1.reads
      = (cache.lookUps v.lifetime v.fetch (lookUpsOf rs)).1
  -- If the lookups go side by side, in whatever way, the cache still says the same.
  sideBySide : Signer.passkeyCount signers = rs.length → ∀ after,
    LookingUp.Run v.lifetime v.fetch ⟨cache, lookUpsOf rs, []⟩ ⟨after, [], []⟩ →
      after.Agrees (v.verify cache settings signers rs).2
  -- No check has a part in this: signers, wallet and signature schemes may be
  -- others, and other responses with the same lookups may fare differently.
  unaffected : ∀ (v' : Verifier) settings' signers' rs', v'.lifetime = v.lifetime →
    v'.fetch = v.fetch → Signer.passkeyCount signers = rs.length →
      Signer.passkeyCount signers' = rs'.length → lookUpsOf rs' = lookUpsOf rs →
        (v'.verify cache settings' signers' rs').2 = (v.verify cache settings signers rs).2 ∧
          (v'.verify cache settings' signers' rs').1.reads
            = (v.verify cache settings signers rs).1.reads
  -- With a wrong number of responses nothing is looked up.
  miscounted : Signer.passkeyCount signers ≠ rs.length →
    v.verify cache settings signers rs =
      (.refuse (.responseCount (Signer.passkeyCount signers) rs.length), cache)

/-- Verifying leaves the cache that its lookups leave. -/
theorem verify_leaves (cache : ClientCache) (settings : Option Address) (signers : List Signer)
    (rs : List TimedResponse) (hcount : Signer.passkeyCount signers = rs.length) :
    (v.verify cache settings signers rs).2
      = (cache.lookUps v.lifetime v.fetch (lookUpsOf rs)).2 := by
  rw [v.verify_cache cache settings signers rs hcount, v.warm_eq]

/-- Verifying reads what its lookups read, whatever becomes of the signers. -/
theorem verify_reads (cache : ClientCache) (settings : Option Address) (signers : List Signer)
    (rs : List TimedResponse) (hcount : Signer.passkeyCount signers = rs.length) :
    (v.verify cache settings signers rs).1.reads
      = (cache.lookUps v.lifetime v.fetch (lookUpsOf rs)).1 := by
  rw [verify, if_neg (not_not.mpr hcount)]
  exact v.verifyEach_reads _ _ cache signers rs hcount

/-- The clients of the answerable responses are looked up, in order, and no
    others, whether signers are accepted or refused. -/
theorem verify_looksUp (cache : ClientCache) (settings : Option Address) (signers : List Signer)
    (rs : List TimedResponse) : v.LooksUp cache settings signers rs where
  leaves hcount := v.verify_leaves cache settings signers rs hcount
  reads hcount := v.verify_reads cache settings signers rs hcount
  sideBySide hcount after hrun := by
    rw [v.verify_leaves cache settings signers rs hcount]
    exact hrun.agrees
  unaffected v' settings' signers' rs' hlifetime hfetch hcount hcount' hsame := by
    rw [v.verify_leaves _ _ _ _ hcount, v'.verify_leaves _ _ _ _ hcount',
      v.verify_reads _ _ _ _ hcount, v'.verify_reads _ _ _ _ hcount', hlifetime, hfetch, hsame]
    exact ⟨rfl, rfl⟩
  miscounted hcount := by
    rw [verify, if_pos hcount]

/-- Every signer is refused, the first at the first check, and the second because its
    request has run out. The clients of the other two are kept nevertheless. -/
theorem verify_looksUp_refused :
    let v : Verifier :=
      ⟨Program.wallet, .standard, 1000, fun origin => .ok ⟨some (origin ++ "/key"), none⟩⟩
    let response (origin : String) (validTill : UInt64) : AuthorizationResponse := {
      assertion := ⟨"eyJ0eXBlIjoiIiwiY2hhbGxlbmdlIjoiIiwib3JpZ2luIjoiIn0", "", none⟩
      client := ⟨origin, ""⟩
      device := ⟨"", ""⟩
      authProvider := none
      request := ⟨validTill, .transaction "" false⟩
      slot := 0
      slotHash := "11111111111111111111111111111111"
      nonce := "" }
    let signers : List Signer := [.passkey (.replicate 33 1) none, .plain (.replicate 32 2),
      .passkey (.replicate 33 3) none, .passkey (.replicate 33 4) none]
    let rs : List TimedResponse :=
      [⟨response "a" 10, ⟨1, 2, 3⟩⟩, ⟨response "b" 1, ⟨4, 5, 6⟩⟩, ⟨response "c" 10, ⟨7, 8, 9⟩⟩]
    let query := v.verify .empty none signers rs
    query.1.result = .error (.challenge (.wrongType "")) ∧
      query.1.reads = [.document "a", .document "c"] ∧
      query.2 = ⟨[("c", ⟨"c/key", none, 9⟩), ("a", ⟨"a/key", none, 3⟩)]⟩ := by
  intro v response signers rs query
  have hlookUps : lookUpsOf rs = [⟨"a", 2, 3⟩, ⟨"c", 8, 9⟩] := by decide +kernel
  have hverify := v.verify_looksUp .empty none signers rs
  refine ⟨by decide +kernel, ?_, ?_⟩
  · rw [hverify.reads rfl, hlookUps]
    decide +kernel
  · rw [hverify.leaves rfl, hlookUps]
    decide +kernel

end Verifier

end Cosigner
