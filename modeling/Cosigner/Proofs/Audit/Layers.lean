import Cosigner.Proofs.Audit.Dealing

/-!
# Which Failure Is Reported

A response can be wrong in many ways at once. Another message hash, for one, also
spoils what the device, the client and the auth provider signed. Only one refusal
is reported, so it has to be clear which: of the signers the first that is
refused, and for that signer the first layer that refuses.

All layers are evaluated, and a client is looked up although the challenge is
already known to be wrong. So it is not evaluation order that decides, but the
order in which the results are put together. `Approval.checkLayer` has the result
of each layer on its own, whatever the others say, and the verdict is compared
with these.

From there tampering is easy to follow. The hash of a proof has no part in the
first layer, and its slot is looked at in no other, so a proof that was accepted
and is then changed in one of the two is refused by the layer that it belongs to.

## Main definitions

* `Layer.inOrder`: The layers in the order of their precedence.
* `Approval.checkLayer`, `Verifier.checkLayer`: A single layer on its own.
* `Verifier.RefusesFirst`: The first signer that is refused, and its refusal.
* `ReportsFirst`: The first failure is the one that is reported.

## Theorems

* `Approval.verdict_eq_error`: The first layer that refuses decides.
* `Verifier.verifyPasskey_eq_error`: The same for a response that is decoded.
* `Verifier.layer?_of_checkLayer`: A refusal names the layer that it is from.
* `Verifier.verify_eq_error`: The first signer that is refused decides.
* `Verifier.verifyPasskey_otherHash`, `Verifier.verifyPasskey_otherSlot`: What a
  changed proof comes to.
* `Verifier.verify_reportsFirst`: All of this at once.
-/

namespace Cosigner

/-- The layers in the order of their precedence. -/
def Layer.inOrder : List Layer :=
  [.challenge, .messageHash, .device, .client, .authProvider]

namespace Approval

/-- A single layer on its own, given what came of looking up the client. -/
def checkLayer (schemes : SignatureSchemes) (a : Approval) (proof : Option PasskeyProof)
    (client : Except Refusal ClientIdentity) : Layer → Except Refusal Unit
  | .challenge => (a.checkChallenge proof).mapError .challenge
  | .messageHash => (a.checkMessageHash proof).mapError .messageHash
  | .device => (checkDevice schemes a proof).mapError .device
  | .client => client >>= fun identity =>
      (checkClient schemes a proof identity).mapError .client
  | .authProvider => (fun _ => ()) <$> checkAuthProvider schemes a proof

-- The first layer that refuses decides.
theorem verdict_eq_error (schemes : SignatureSchemes) (a : Approval)
    (proof : Option PasskeyProof) (client : Except Refusal ClientIdentity) (e : Refusal) :
    verdict schemes a proof client = .error e ↔
      Outcome.FirstFailure (a.checkLayer schemes proof client) Layer.inOrder e := by
  simp only [Layer.inOrder, Outcome.firstFailure_cons, Outcome.firstFailure_nil, and_false,
    or_false, checkLayer, verdict, Outcome.bind_eq_error, Outcome.map_eq_error,
    Outcome.pure_ne_error, exists_false, exists_and_right]
  -- The first three layers hand nothing on. The fourth needs the client's identity,
  -- and refuses if there is none.
  refine or_congr_right (and_congr_right fun _ => or_congr_right (and_congr_right fun _ =>
    or_congr_right (and_congr_right fun _ => ?_)))
  cases client with
  | error refusal =>
      simp only [Outcome.error_bind, reduceCtorEq, false_and, exists_false, or_false]
  | ok identity =>
      simp only [Outcome.bind_eq_ok, reduceCtorEq, Except.ok.injEq, exists_eq_left', false_or]

-- The last layer has refusals of its own.
theorem checkAuthProvider_eq_error (schemes : SignatureSchemes) (a : Approval)
    (proof : Option PasskeyProof) (e : Refusal) (h : checkAuthProvider schemes a proof = .error e) :
    e = .missingAuthProvider ∨ ∃ fault, e = .authProvider fault := by
  unfold checkAuthProvider at h
  split at h
  · split at h
    · exact .inl (Except.error.inj h).symm
    · exact absurd h (by simp only [reduceCtorEq, not_false_eq_true])
  · split at h
    · exact absurd h (by simp only [reduceCtorEq, not_false_eq_true])
    · exact .inr ⟨_, (Except.error.inj h).symm⟩

/-- A proof of another slot is refused before the challenge is computed. -/
theorem checkChallenge_otherSlot (e : Evidence) (r : AuthorizationResponse) (p : PasskeyProof)
    (htype : e.clientData.type = "webauthn.get") (h : p.slot ≠ r.slot) :
    (e.approval r).checkChallenge (some p) = .error (.wrongSlot r.slot p.slot) := by
  unfold checkChallenge
  simp only [Evidence.approval, htype, ClientData.getType, h, ne_eq, not_true, if_false,
    not_false_eq_true, if_true]
  rfl

/-- A proof of another message is refused before any signature is looked at. -/
theorem checkMessageHash_otherHash (e : Evidence) (r : AuthorizationResponse) (p : PasskeyProof)
    (h : p.messageHash ≠ e.messageHash) :
    (e.approval r).checkMessageHash (some p) = .error .mismatch := by
  have hrefused : (e.approval r).checkMessageHash (some p) ≠ .ok () := by
    intro hok
    rcases (checkMessageHash_eq_ok e r (some p)).mp hok with ⟨_, hp, hhash⟩
    rw [← Option.some.inj hp] at hhash
    exact h hhash
  unfold checkMessageHash at hrefused ⊢
  by_cases heq : p.messageHash = (e.approval r).assertion.messageHash
  · exact absurd (if_pos heq) hrefused
  · exact if_neg heq

end Approval

-- A client that is not found is a failure of the client's layer.
theorem ClientCache.lookUp_eq_error (c : ClientCache) (lifetime : UInt64) (fetch : Fetcher)
    (now stored : UInt64) (origin : String) (e : Refusal)
    (h : (c.lookUp lifetime fetch now stored origin).1.result = .error e) :
    ∃ fault, e = .client fault := by
  unfold lookUp at h
  split at h
  · exact absurd h (by simp only [Query.result_pure, reduceCtorEq, not_false_eq_true])
  · rcases hanswer : fetch origin with reason | ⟨_ | key, devices⟩
    · simp only [hanswer, identityOf, Query.result_ask, Except.error.injEq] at h
      exact ⟨_, h.symm⟩
    · simp only [hanswer, identityOf, Query.result_ask, Except.error.injEq] at h
      exact ⟨_, h.symm⟩
    · simp only [hanswer, identityOf, Query.result_ask, reduceCtorEq] at h

namespace Verifier

variable (v : Verifier)

/-- A single layer on its own, for a response that spells evidence. -/
def checkLayer (cache : ClientCache) (proof : Option PasskeyProof) (r : TimedResponse)
    (e : Evidence) : Layer → Except Refusal Unit :=
  (e.approval r.response).checkLayer v.schemes proof
    (cache.lookUp v.lifetime v.fetch r.readings.lookedUp r.readings.stored
      r.response.client.origin).1.result

/-- The first signer that is refused, with its refusal. The signers in front of it
    are verified with the responses in front of its own. -/
def RefusesFirst (cache : ClientCache) (settings : Option Address) (signers : List Signer)
    (rs : List TimedResponse) (refusal : Refusal) : Prop :=
  ∃ before key proof after taken r left, signers = before ++ .passkey key proof :: after ∧
    rs = taken ++ r :: left ∧
    (∃ verified, (v.verify cache settings before taken).1.result = .ok verified) ∧
    (v.verifyPasskey (settings.map (vaultAddress v.program)) (v.warm cache taken) key proof
      r).1.result = .error refusal

-- The first layer that refuses decides on a response that is decoded.
theorem verifyPasskey_eq_error (wallet : Option Address) (cache : ClientCache) (key : Passkey)
    (proof : Option PasskeyProof) (r : TimedResponse) (e : Evidence) (refusal : Refusal)
    (htime : r.readings.checked ≤ r.response.request.validTill) (hspelled : e.SpelledBy r.response) :
    (v.verifyPasskey wallet cache key proof r).1.result = .error refusal ↔
      Outcome.FirstFailure (v.checkLayer cache proof r e) Layer.inOrder refusal := by
  have hdecoded := (Approval.ofResponse_eq_ok r.readings.checked r.response _).mpr
    ⟨htime, e, hspelled, rfl⟩
  rw [checkLayer, ← Approval.verdict_eq_error]
  simp only [verifyPasskey, hdecoded, Outcome.bind_eq_error, Outcome.pure_ne_error, and_false,
    exists_false, or_false]

-- A refusal names the layer that it is from. Only the lack of an auth provider,
-- with which the last layer begins, names none.
theorem layer?_of_checkLayer (cache : ClientCache) (proof : Option PasskeyProof)
    (r : TimedResponse) (e : Evidence) (layer : Layer) (refusal : Refusal)
    (h : v.checkLayer cache proof r e layer = .error refusal) :
    refusal.layer? = some layer ∨ layer = .authProvider ∧ refusal = .missingAuthProvider := by
  cases layer with
  | challenge =>
      rcases (Outcome.mapError_eq_error _ _ _).mp h with ⟨fault, _, rfl⟩
      exact .inl rfl
  | messageHash =>
      rcases (Outcome.mapError_eq_error _ _ _).mp h with ⟨fault, _, rfl⟩
      exact .inl rfl
  | device =>
      rcases (Outcome.mapError_eq_error _ _ _).mp h with ⟨fault, _, rfl⟩
      exact .inl rfl
  | client =>
      rcases (Outcome.bind_eq_error _ _ _).mp h with hlookUp | ⟨identity, _, hclient⟩
      · rcases ClientCache.lookUp_eq_error _ _ _ _ _ _ _ hlookUp with ⟨fault, rfl⟩
        exact .inl rfl
      · rcases (Outcome.mapError_eq_error _ _ _).mp hclient with ⟨fault, _, rfl⟩
        exact .inl rfl
  | authProvider =>
      rcases Approval.checkAuthProvider_eq_error _ _ _ _ ((Outcome.map_eq_error _ _ _).mp h) with
        rfl | ⟨fault, rfl⟩
      · exact .inr ⟨rfl, rfl⟩
      · exact .inl rfl

-- A plain signer is never refused and takes no response.
theorem refusesFirst_plain (cache : ClientCache) (settings : Option Address) (key : Address)
    (signers : List Signer) (rs : List TimedResponse) (refusal : Refusal) :
    v.RefusesFirst cache settings (.plain key :: signers) rs refusal ↔
      v.RefusesFirst cache settings signers rs refusal := by
  unfold RefusesFirst
  simp only [verify_eq_ok]
  constructor
  · intro h
    rcases h with ⟨before, key', proof, after, taken, r, left, hsigners, hrs, ⟨_, hdealt⟩, hr⟩
    cases before with
    | nil =>
        exact absurd (List.cons.inj hsigners).1 (by simp only [reduceCtorEq, not_false_eq_true])
    | cons s before =>
        rcases List.cons.inj hsigners with ⟨rfl, htail⟩
        cases hdealt with
        | plain _ _ _ _ _ verified hrest =>
            exact ⟨before, key', proof, after, taken, r, left, htail, hrs, ⟨verified, hrest⟩, hr⟩
  · intro h
    rcases h with ⟨before, key', proof, after, taken, r, left, rfl, hrs, ⟨verified, hdealt⟩, hr⟩
    exact ⟨.plain key :: before, key', proof, after, taken, r, left, rfl, hrs,
      ⟨_, .plain cache key _ _ _ verified hdealt⟩, hr⟩

-- A passkey is refused itself, or it is verified and leaves the rest to the others.
theorem refusesFirst_passkey (cache : ClientCache) (settings : Option Address) (key : Passkey)
    (proof : Option PasskeyProof) (signers : List Signer) (r : TimedResponse)
    (rs : List TimedResponse) (refusal : Refusal) :
    v.RefusesFirst cache settings (.passkey key proof :: signers) (r :: rs) refusal ↔
      (v.verifyPasskey (settings.map (vaultAddress v.program)) cache key proof r).1.result =
          .error refusal ∨
      (∃ s, (v.verifyPasskey (settings.map (vaultAddress v.program)) cache key proof r).1.result =
          .ok s) ∧
        v.RefusesFirst (v.afterLookUp cache r) settings signers rs refusal := by
  unfold RefusesFirst
  simp only [verify_eq_ok]
  constructor
  · intro h
    rcases h with ⟨before, key', proof', after, taken, r', left, hsigners, hrs, ⟨_, hdealt⟩, hr⟩
    cases before with
    | nil =>
        rcases List.cons.inj hsigners with ⟨hsigner, rfl⟩
        rcases Signer.passkey.inj hsigner with ⟨rfl, rfl⟩
        cases hdealt
        rcases List.cons.inj hrs with ⟨rfl, rfl⟩
        exact .inl hr
    | cons s before =>
        rcases List.cons.inj hsigners with ⟨rfl, htail⟩
        cases hdealt with
        | passkey _ _ _ _ _ e identity _ taken verified haccepted hrest =>
            rcases List.cons.inj hrs with ⟨rfl, hresponses⟩
            have hown := (v.verifyPasskey_eq_ok (settings.map (vaultAddress v.program)) cache key
              proof r _).mpr ⟨e, identity, haccepted, rfl⟩
            exact .inr ⟨⟨_, hown⟩, before, key', proof', after, taken, r', left, htail, hresponses,
              ⟨verified, hrest⟩, hr⟩
  · intro h
    rcases h with hr | ⟨⟨s, hs⟩, before, key', proof', after, taken, r', left, rfl, rfl,
      ⟨verified, hrest⟩, hr⟩
    · exact ⟨[], key, proof, signers, [], r, rs, rfl, rfl, ⟨[], .nil cache⟩, hr⟩
    · rcases (v.verifyPasskey_eq_ok _ _ _ _ _ _).mp hs with ⟨e, identity, haccepted, _⟩
      exact ⟨.passkey key proof :: before, key', proof', after, r :: taken, r', left, rfl, rfl,
        ⟨_, .passkey cache key proof _ r e identity _ _ verified haccepted hrest⟩, hr⟩

/-- Signers fail with the first one of them that is refused. -/
theorem verifyEach_eq_error (expected : Nat) (settings : Option Address) (cache : ClientCache)
    (signers : List Signer) (rs : List TimedResponse) (refusal : Refusal)
    (hcount : Signer.passkeyCount signers = rs.length) :
    Outcome.FirstFailure (fun q => (id q).result)
        (v.verifyEach (settings.map (vaultAddress v.program)) expected cache signers rs).1 refusal ↔
      v.RefusesFirst cache settings signers rs refusal := by
  have hanswered := Signer.answered_of_count signers rs hcount
  clear hcount
  -- The induction is on the signers; a passkey hands its cache on.
  induction hanswered generalizing cache with
  | nil =>
      rw [verifyEach]
      refine ⟨fun h => absurd h (Outcome.firstFailure_nil _ _), fun h => ?_⟩
      rcases h with ⟨before, _, _, _, _, _, _, hsplit, _⟩
      exact absurd hsplit.symm (List.append_ne_nil_of_right_ne_nil _ (List.cons_ne_nil _ _))
  | plain key signers rs _ ih =>
      have hothers : _ ↔ _ := ih cache
      rw [refusesFirst_plain, ← hothers, verifyEach, Outcome.firstFailure_cons]
      simp only [id, Query.result_pure, reduceCtorEq, Except.ok.injEq, exists_eq', true_and,
        false_or]
  | passkey key proof signers r rs _ ih =>
      have hothers : _ ↔ _ := ih (v.afterLookUp cache r)
      rw [refusesFirst_passkey, ← hothers, verifyEach_passkey, Outcome.firstFailure_cons]
      rfl

/-- The first signer that is refused decides, if there is a response for each
    passkey. -/
theorem verify_eq_error (cache : ClientCache) (settings : Option Address) (signers : List Signer)
    (rs : List TimedResponse) (refusal : Refusal)
    (hcount : Signer.passkeyCount signers = rs.length) :
    (v.verify cache settings signers rs).1.result = .error refusal ↔
      v.RefusesFirst cache settings signers rs refusal := by
  unfold verify
  rw [if_neg (not_not.mpr hcount), Query.result_forAll_eq_error]
  exact v.verifyEach_eq_error _ settings cache signers rs refusal hcount

/-- A proof that was accepted is refused with another hash, by the second layer. The
    first one passes, because it does not look at the hash. -/
theorem verifyPasskey_otherHash (wallet : Option Address) (cache : ClientCache) (key : Passkey)
    (p p' : PasskeyProof) (r : TimedResponse) (s : VerifiedSigner)
    (h : (v.verifyPasskey wallet cache key (some p) r).1.result = .ok s)
    (hslot : p'.slot = p.slot) (hhash : p'.messageHash ≠ p.messageHash) :
    (v.verifyPasskey wallet cache key (some p') r).1.result = .error (.messageHash .mismatch) := by
  rcases (v.verifyPasskey_eq_ok _ _ _ _ _ _).mp h with ⟨e, identity, haccepted, _⟩
  have hproof := Option.some.inj haccepted.proven
  rw [hproof] at hslot hhash
  rw [v.verifyPasskey_eq_error _ _ _ _ _ e _ haccepted.inTime haccepted.spelled]
  have hfirst : v.checkLayer cache (some p') r e .challenge = .ok () :=
    (Outcome.mapError_eq_ok _ _ _).mpr ((Approval.checkChallenge_eq_ok _ _ _).mpr
      ⟨haccepted.type, hslot, haccepted.challenge⟩)
  have hsecond : v.checkLayer cache (some p') r e .messageHash =
      .error (.messageHash .mismatch) :=
    (Outcome.mapError_eq_error _ _ _).mpr
      ⟨_, Approval.checkMessageHash_otherHash e r.response p' hhash, rfl⟩
  exact ⟨[.challenge], .messageHash, _, rfl, List.forall_mem_singleton.mpr ⟨(), hfirst⟩, hsecond⟩

/-- A proof that was accepted is refused with another slot, by the first layer. -/
theorem verifyPasskey_otherSlot (wallet : Option Address) (cache : ClientCache) (key : Passkey)
    (p p' : PasskeyProof) (r : TimedResponse) (s : VerifiedSigner)
    (h : (v.verifyPasskey wallet cache key (some p) r).1.result = .ok s)
    (hslot : p'.slot ≠ p.slot) :
    (v.verifyPasskey wallet cache key (some p') r).1.result =
      .error (.challenge (.wrongSlot p.slot p'.slot)) := by
  rcases (v.verifyPasskey_eq_ok _ _ _ _ _ _).mp h with ⟨e, identity, haccepted, _⟩
  have hproof := Option.some.inj haccepted.proven
  rw [hproof] at hslot ⊢
  rw [v.verifyPasskey_eq_error _ _ _ _ _ e _ haccepted.inTime haccepted.spelled]
  have hfirst : v.checkLayer cache (some p') r e .challenge =
      .error (.challenge (.wrongSlot r.response.slot p'.slot)) :=
    (Outcome.mapError_eq_error _ _ _).mpr
      ⟨_, Approval.checkChallenge_otherSlot e r.response p' haccepted.type hslot, rfl⟩
  exact ⟨[], .challenge, _, rfl, List.forall_mem_nil _, hfirst⟩

-- If replacing the proof of a passkey has it refused, then the signers are refused
-- for it: those in front of it are verified as before.
theorem verify_otherProof (cache : ClientCache) (settings : Option Address)
    (before after : List Signer) (key : Passkey) (proof proof' : Option PasskeyProof)
    (rs : List TimedResponse) (verified : List VerifiedSigner) (refusal : Refusal)
    (h : (v.verify cache settings (before ++ .passkey key proof :: after) rs).1.result =
      .ok verified)
    (hother : ∀ wallet cache r s, (v.verifyPasskey wallet cache key proof r).1.result = .ok s →
      (v.verifyPasskey wallet cache key proof' r).1.result = .error refusal) :
    (v.verify cache settings (before ++ .passkey key proof' :: after) rs).1.result =
      .error refusal := by
  have hdealt := (v.verify_eq_ok _ _ _ _ _).mp h
  have hcount := ((v.verifyEach_eq_ok _ 0 _ _ _ _).mpr hdealt).1
  have hsame : Signer.passkeyCount (before ++ .passkey key proof' :: after) =
      Signer.passkeyCount (before ++ .passkey key proof :: after) := by
    simp only [Signer.passkeyCount, List.countP_append, List.countP_cons, Signer.isPasskey]
  rw [List.map_append, List.map_cons] at hdealt
  rcases hdealt.of_append with ⟨taken, rest, front, back, rfl, _, hfront, hback⟩
  cases hback with
  | passkey _ _ _ _ r e identity _ left _ haccepted _ =>
      have hown := (v.verifyPasskey_eq_ok (settings.map (vaultAddress v.program)) _ key proof r
        _).mpr ⟨e, identity, haccepted, rfl⟩
      rw [v.verify_eq_error _ _ _ _ _ (hsame.trans hcount)]
      exact ⟨before, key, proof', after, taken, r, left, rfl, rfl,
        ⟨front, (v.verify_eq_ok _ _ _ _ _).mpr hfront⟩, hother _ _ r _ hown⟩

end Verifier

/-- The first failure is the one that is reported. -/
structure ReportsFirst (v : Verifier) : Prop where
  -- Of the signers, the first that is refused decides.
  signers : ∀ cache settings signers rs refusal, Signer.passkeyCount signers = rs.length →
    ((v.verify cache settings signers rs).1.result = .error refusal ↔
      v.RefusesFirst cache settings signers rs refusal)
  -- Of the layers, for a response that is decoded, the first that refuses decides.
  layers : ∀ wallet cache key proof r e refusal,
    r.readings.checked ≤ r.response.request.validTill → e.SpelledBy r.response →
    ((v.verifyPasskey wallet cache key proof r).1.result = .error refusal ↔
      Outcome.FirstFailure (v.checkLayer cache proof r e) Layer.inOrder refusal)
  -- Its refusal names it, if it is not that there is no auth provider.
  named : ∀ cache proof r e layer refusal, v.checkLayer cache proof r e layer = .error refusal →
    refusal.layer? = some layer ∨ layer = .authProvider ∧ refusal = .missingAuthProvider
  -- Another hash in the proof of a verified passkey is refused by the second layer.
  otherHash : ∀ cache settings before key p after rs verified,
    (v.verify cache settings (before ++ .passkey key (some p) :: after) rs).1.result =
      .ok verified →
    ∀ hash, hash ≠ p.messageHash →
      (v.verify cache settings
        (before ++ .passkey key (some { p with messageHash := hash }) :: after) rs).1.result =
        .error (.messageHash .mismatch)
  -- Another slot is refused by the first.
  otherSlot : ∀ cache settings before key p after rs verified,
    (v.verify cache settings (before ++ .passkey key (some p) :: after) rs).1.result =
      .ok verified →
    ∀ slot, slot ≠ p.slot →
      (v.verify cache settings
        (before ++ .passkey key (some { p with slot := slot }) :: after) rs).1.result =
        .error (.challenge (.wrongSlot p.slot slot))

/-- Every verifier reports the first failure. -/
theorem Verifier.verify_reportsFirst (v : Verifier) : ReportsFirst v where
  signers cache settings signers rs refusal hcount :=
    v.verify_eq_error cache settings signers rs refusal hcount
  layers wallet cache key proof r e refusal htime hspelled :=
    v.verifyPasskey_eq_error wallet cache key proof r e refusal htime hspelled
  named cache proof r e layer refusal h :=
    v.layer?_of_checkLayer cache proof r e layer refusal h
  otherHash cache settings before key p after rs verified h hash hhash := by
    refine v.verify_otherProof cache settings before after key _ _ rs verified _ h ?_
    intro wallet cache r s hs
    exact v.verifyPasskey_otherHash wallet cache key p _ r s hs rfl hhash
  otherSlot cache settings before key p after rs verified h slot hslot := by
    refine v.verify_otherProof cache settings before after key _ _ rs verified _ h ?_
    intro wallet cache r s hs
    exact v.verifyPasskey_otherSlot wallet cache key p _ r s hs hslot

end Cosigner
