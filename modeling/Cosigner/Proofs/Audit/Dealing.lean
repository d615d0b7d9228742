import Cosigner.Audit.Transaction
import Cosigner.Proofs.Audit.Acceptance
import Cosigner.Proofs.Audit.Routing
import Cosigner.Proofs.Wallet.Derivation

/-!
# Dealing Out Responses

Responses reach their passkeys through two nested walks. One goes over the
obligations of a transaction and hands to each as many responses as it has
passkeys; the other goes over the signers of an obligation and hands one to each
passkey. In between stand plain signers, which take none, and behind both walks
goes the cache, which every lookup may change.

`Dealt` says what the two walks do as if they were one: a single pass over all
signers of the transaction, each with the vault of its wallet. Obligations have
no part in it, so nothing can get lost between them. The cache that a passkey
meets depends on the responses before it and on nothing else, which is why it
can be written down as `Verifier.warm`.

## Main definitions

* `Verifier.warm`: The cache after responses were handled.
* `Signer.Answered`: Signers with a response for each passkey.
* `Dealt`: Signers verified in one pass, each passkey with its response.
* `VerifiedSigner.Matches`: The same kind and key.
* `Settled`: An obligation whose signers were verified.

## Theorems

* `Verifier.verify_eq_ok`: Signers are verified exactly if they are dealt
  responses.
* `Verifier.verify_cache`: The cache depends on the responses alone.
* `Dealt.append`, `Dealt.of_append`: Passes in a row are one pass, and one pass is
  two wherever it is cut.
* `Dealt.passkey_at`: The passkey at a place took the response at that place.
* `Auditor.verifyObligations_dealt`: Obligations are verified in one pass.
-/

namespace Cosigner

/-- Whether a verified signer is a passkey. -/
def VerifiedSigner.isPasskey : VerifiedSigner → Bool
  | .plain _ _ => false
  | .passkey _ _ _ _ _ => true

/-- A verified signer has the kind and the key of a signer. -/
def VerifiedSigner.Matches : Signer → VerifiedSigner → Prop
  | .plain key, .plain key' _ => key' = key
  | .passkey key _, .passkey key' _ _ _ _ => key' = key
  | _, _ => False

namespace Verifier

/-- The cache after a response was handled. Its client was looked up if it could
    be decoded. -/
def afterLookUp (v : Verifier) (cache : ClientCache) (r : TimedResponse) : ClientCache :=
  match Approval.ofResponse r.readings.checked r.response with
  | .error _ => cache
  | .ok _ => (cache.lookUp v.lifetime v.fetch r.readings.lookedUp r.readings.stored
      r.response.client.origin).2

/-- The cache after responses were handled one after another. -/
def warm (v : Verifier) (cache : ClientCache) (rs : List TimedResponse) : ClientCache :=
  rs.foldl v.afterLookUp cache

-- A passkey leaves the cache that its lookup leaves.
theorem verifyPasskey_cache (v : Verifier) (wallet : Option Address) (cache : ClientCache)
    (key : Passkey) (proof : Option PasskeyProof) (r : TimedResponse) :
    (v.verifyPasskey wallet cache key proof r).2 = v.afterLookUp cache r := by
  unfold verifyPasskey afterLookUp
  cases Approval.ofResponse r.readings.checked r.response with
  | error refusal => rfl
  | ok approval => rfl

end Verifier

theorem Signer.passkeyCount_passkey (key : Passkey) (proof : Option PasskeyProof)
    (signers : List Signer) :
    passkeyCount (.passkey key proof :: signers) = passkeyCount signers + 1 :=
  List.countP_cons_of_pos rfl

/-- Signers with a response for each passkey, in the order of the signers. -/
inductive Signer.Answered : List Signer → List TimedResponse → Prop where
  -- No signers and no responses.
  | nil : Answered [] []
  -- A plain signer takes none.
  | plain (key : Address) (signers : List Signer) (rs : List TimedResponse)
      (hrest : Answered signers rs) : Answered (.plain key :: signers) rs
  -- A passkey takes the first.
  | passkey (key : Passkey) (proof : Option PasskeyProof) (signers : List Signer)
      (r : TimedResponse) (rs : List TimedResponse) (hrest : Answered signers rs) :
      Answered (.passkey key proof :: signers) (r :: rs)

-- Counting is enough to know that nobody goes without.
theorem Signer.answered_of_count (signers : List Signer) (rs : List TimedResponse)
    (hcount : passkeyCount signers = rs.length) : Answered signers rs := by
  induction signers generalizing rs with
  | nil =>
      rw [List.length_eq_zero_iff.mp hcount.symm]
      exact .nil
  | cons s signers ih =>
      cases s with
      | plain key => exact .plain key signers rs (ih rs hcount)
      | passkey key proof =>
          rw [passkeyCount_passkey] at hcount
          cases rs with
          | nil => exact absurd hcount (Nat.succ_ne_zero _)
          | cons r rs => exact .passkey key proof signers r rs (ih rs (Nat.succ.inj hcount))

/-- Signers verified in one pass, each with the vault of its wallet. A plain
    signer takes no response; a passkey takes the next and is accepted with it. -/
inductive Dealt (v : Verifier) : ClientCache → List (Signer × Option Address) →
    List TimedResponse → List VerifiedSigner → Prop where
  -- Nothing to verify and nothing to deal out.
  | nil (cache : ClientCache) : Dealt v cache [] [] []
  -- A plain signer.
  | plain (cache : ClientCache) (key : Address) (wallet : Option Address)
      (tasks : List (Signer × Option Address)) (rs : List TimedResponse)
      (signers : List VerifiedSigner) (hrest : Dealt v cache tasks rs signers) :
      Dealt v cache ((.plain key, wallet) :: tasks) rs (.plain key wallet :: signers)
  -- A passkey.
  | passkey (cache : ClientCache) (key : Passkey) (proof : Option PasskeyProof)
      (wallet : Option Address) (r : TimedResponse) (e : Evidence) (identity : ClientIdentity)
      (tasks : List (Signer × Option Address)) (rs : List TimedResponse)
      (signers : List VerifiedSigner) (haccepted : Accepted v cache proof r e identity)
      (hrest : Dealt v (v.afterLookUp cache r) tasks rs signers) :
      Dealt v cache ((.passkey key proof, wallet) :: tasks) (r :: rs)
        (.passkey key wallet ⟨r.response.client.origin, identity⟩ r.response.device.key
          (r.response.authProvider.map (·.key)) :: signers)

namespace Dealt

/-- Passes in a row are one pass. The second starts with the cache that the first
    leaves behind. -/
theorem append (v : Verifier) (cache : ClientCache) (tasks tasks' : List (Signer × Option Address))
    (rs rs' : List TimedResponse) (signers signers' : List VerifiedSigner)
    (h : Dealt v cache tasks rs signers) (h' : Dealt v (v.warm cache rs) tasks' rs' signers') :
    Dealt v cache (tasks ++ tasks') (rs ++ rs') (signers ++ signers') := by
  -- The induction is on the first pass; the second hangs on at its end.
  induction h with
  | nil cache => exact h'
  | plain cache key wallet tasks rs signers _ ih =>
      exact .plain cache key wallet _ _ _ (ih h')
  | passkey cache key proof wallet r e identity tasks rs signers haccepted _ ih =>
      exact .passkey cache key proof wallet r e identity _ _ _ haccepted (ih h')

/-- One pass is two passes in a row, wherever it is cut. -/
theorem of_append (v : Verifier) (cache : ClientCache)
    (tasks tasks' : List (Signer × Option Address)) (rs : List TimedResponse)
    (signers : List VerifiedSigner) (h : Dealt v cache (tasks ++ tasks') rs signers) :
    ∃ rs₁ rs₂ signers₁ signers₂, rs = rs₁ ++ rs₂ ∧ signers = signers₁ ++ signers₂ ∧
      Dealt v cache tasks rs₁ signers₁ ∧ Dealt v (v.warm cache rs₁) tasks' rs₂ signers₂ := by
  -- The induction is on what comes in front of the cut.
  induction tasks generalizing cache rs signers with
  | nil => exact ⟨[], rs, [], signers, rfl, rfl, .nil cache, h⟩
  | cons t tasks ih =>
      cases h with
      | plain _ key wallet _ _ signers hrest =>
          rcases ih cache rs signers hrest with ⟨rs₁, rs₂, s₁, s₂, rfl, rfl, hfront, hback⟩
          exact ⟨rs₁, rs₂, _, s₂, rfl, rfl, .plain cache key wallet _ _ _ hfront, hback⟩
      | passkey _ key proof wallet r e identity _ rs signers haccepted hrest =>
          rcases ih _ rs signers hrest with ⟨rs₁, rs₂, s₁, s₂, rfl, rfl, hfront, hback⟩
          exact ⟨r :: rs₁, rs₂, _, s₂, rfl, rfl,
            .passkey cache key proof wallet r e identity _ _ _ haccepted hfront, hback⟩

/-- Every signer comes out in its place, with the vault that it went in with. -/
theorem matches_tasks (v : Verifier) (cache : ClientCache)
    (tasks : List (Signer × Option Address)) (rs : List TimedResponse)
    (signers : List VerifiedSigner) (h : Dealt v cache tasks rs signers) :
    List.Forall₂ (fun t s => VerifiedSigner.Matches t.1 s ∧ s.wallet = t.2) tasks signers := by
  induction h with
  | nil cache => exact .nil
  | plain cache key wallet tasks rs signers _ ih => exact .cons ⟨rfl, rfl⟩ ih
  | passkey cache key proof wallet r e identity tasks rs signers _ _ ih =>
      exact .cons ⟨rfl, rfl⟩ ih

/-- The passkey at a place was accepted with the response at that place, and
    found the cache as the responses before it left it. -/
theorem passkey_at (v : Verifier) (cache : ClientCache) (tasks : List (Signer × Option Address))
    (rs : List TimedResponse) (signers : List VerifiedSigner) (h : Dealt v cache tasks rs signers)
    (n : Nat) (key : Passkey) (proof : Option PasskeyProof) (wallet : Option Address)
    (hn : (tasks.filter (·.1.isPasskey))[n]? = some (.passkey key proof, wallet)) :
    ∃ r e identity, rs[n]? = some r ∧
      Accepted v (v.warm cache (rs.take n)) proof r e identity ∧
      (signers.filter (·.isPasskey))[n]? = some (.passkey key wallet
        ⟨r.response.client.origin, identity⟩ r.response.device.key
        (r.response.authProvider.map (·.key))) := by
  induction h generalizing n with
  | nil cache => simp only [List.filter_nil, List.getElem?_nil, reduceCtorEq] at hn
  | plain cache key' wallet' tasks rs signers _ ih =>
      -- Places are counted over passkeys, and a plain signer takes no response.
      exact ih n hn
  | passkey cache key' proof' wallet' r e identity tasks rs signers haccepted _ ih =>
      cases n with
      | zero =>
          simp only [List.filter_cons, Signer.isPasskey, if_true, List.getElem?_cons_zero,
            Option.some.injEq, Prod.mk.injEq, Signer.passkey.injEq] at hn
          rcases hn with ⟨⟨rfl, rfl⟩, rfl⟩
          exact ⟨r, e, identity, rfl, haccepted, rfl⟩
      | succ n =>
          -- The response that is taken here is in front of all later ones.
          exact ih n hn

end Dealt

namespace Verifier

variable (v : Verifier)

/-- Verifying goes on behind a passkey with the cache that its response leaves. -/
theorem verifyEach_passkey (wallet : Option Address) (expected : Nat) (cache : ClientCache)
    (key : Passkey) (proof : Option PasskeyProof) (signers : List Signer) (r : TimedResponse)
    (rs : List TimedResponse) :
    v.verifyEach wallet expected cache (.passkey key proof :: signers) (r :: rs) =
      ((v.verifyPasskey wallet cache key proof r).1 ::
        (v.verifyEach wallet expected (v.afterLookUp cache r) signers rs).1,
        (v.verifyEach wallet expected (v.afterLookUp cache r) signers rs).2) := by
  rw [verifyEach, ← v.verifyPasskey_cache wallet cache key proof r]

/-- The cache after verifying signers depends on the responses alone, if each
    passkey has one. -/
theorem verifyEach_cache (wallet : Option Address) (expected : Nat) (cache : ClientCache)
    (signers : List Signer) (rs : List TimedResponse)
    (hcount : Signer.passkeyCount signers = rs.length) :
    (v.verifyEach wallet expected cache signers rs).2 = v.warm cache rs := by
  have hanswered := Signer.answered_of_count signers rs hcount
  clear hcount
  induction hanswered generalizing cache with
  | nil => rfl
  | plain key signers rs _ ih =>
      rw [verifyEach]
      exact ih cache
  | passkey key proof signers r rs _ ih =>
      -- The first response warms the cache for the others.
      rw [verifyEach_passkey]
      exact ih (v.afterLookUp cache r)

/-- Signers are verified, each of them, exactly if they are dealt responses. -/
theorem verifyEach_eq_ok (wallet : Option Address) (expected : Nat) (cache : ClientCache)
    (signers : List Signer) (rs : List TimedResponse) (verified : List VerifiedSigner) :
    Signer.passkeyCount signers = rs.length ∧
      List.Forall₂ (fun q s => q.result = .ok s)
        (v.verifyEach wallet expected cache signers rs).1 verified ↔
      Dealt v cache (signers.map (·, wallet)) rs verified := by
  induction signers generalizing cache rs verified with
  | nil =>
      constructor
      · intro h
        rcases h with ⟨hcount, hall⟩
        rw [List.length_eq_zero_iff.mp hcount.symm, List.forall₂_nil_left_iff.mp hall]
        exact .nil cache
      · intro h
        cases h
        exact ⟨rfl, .nil⟩
  | cons s signers ih =>
      cases s with
      | plain key =>
          constructor
          · intro h
            rcases h with ⟨hcount, hall⟩
            rcases List.forall₂_cons_left_iff.mp hall with ⟨s, rest, hs, hrest, rfl⟩
            rw [← Except.ok.inj hs]
            exact .plain cache key wallet _ _ _ ((ih cache rs rest).mp ⟨hcount, hrest⟩)
          · intro h
            cases h with
            | plain _ _ _ _ _ rest hrest =>
                rcases (ih cache rs rest).mpr hrest with ⟨hcount, hall⟩
                exact ⟨hcount, .cons rfl hall⟩
      | passkey key proof =>
          rw [Signer.passkeyCount_passkey]
          cases rs with
          | nil =>
              -- A passkey without a response: the count is off, and nothing is dealt.
              constructor
              · intro h
                rcases h with ⟨hcount, _⟩
                exact absurd hcount (Nat.succ_ne_zero _)
              · intro h
                cases h
          | cons r rs =>
              rw [verifyEach_passkey]
              constructor
              · intro h
                rcases h with ⟨hcount, hall⟩
                rcases List.forall₂_cons_left_iff.mp hall with ⟨s, rest, hs, hrest, rfl⟩
                rcases (v.verifyPasskey_eq_ok _ _ _ _ _ _).mp hs with
                  ⟨e, identity, haccepted, rfl⟩
                exact .passkey cache key proof wallet r e identity _ _ _ haccepted
                  ((ih _ rs rest).mp ⟨Nat.succ.inj hcount, hrest⟩)
              · intro h
                cases h with
                | passkey _ _ _ _ _ e identity _ _ rest haccepted hrest =>
                    rcases (ih _ rs rest).mpr hrest with ⟨hcount, hall⟩
                    have hs := (v.verifyPasskey_eq_ok wallet cache key proof r _).mpr
                      ⟨e, identity, haccepted, rfl⟩
                    exact ⟨congrArg Nat.succ hcount, .cons hs hall⟩

/-- Signers are verified exactly if they are dealt responses. -/
theorem verify_eq_ok (cache : ClientCache) (settings : Option Address) (signers : List Signer)
    (rs : List TimedResponse) (verified : List VerifiedSigner) :
    (v.verify cache settings signers rs).1.result = .ok verified ↔
      Dealt v cache (signers.map (·, settings.map (vaultAddress v.program))) rs verified := by
  rw [← v.verifyEach_eq_ok _ (Signer.passkeyCount signers)]
  unfold verify
  by_cases hcount : Signer.passkeyCount signers = rs.length
  · simp only [hcount, ne_eq, not_true, if_false, Query.result_forAll_eq_ok, id, true_and]
  · simp only [hcount, ne_eq, not_false_eq_true, if_true, Query.result_refuse, reduceCtorEq,
      false_and]

/-- The cache after verifying signers depends on the responses alone. -/
theorem verify_cache (cache : ClientCache) (settings : Option Address) (signers : List Signer)
    (rs : List TimedResponse) (hcount : Signer.passkeyCount signers = rs.length) :
    (v.verify cache settings signers rs).2 = v.warm cache rs := by
  unfold verify
  rw [if_neg (not_not.mpr hcount)]
  exact v.verifyEach_cache _ _ cache signers rs hcount

/-- The signers of obligations, each with the vault of its wallet. -/
def tasks (os : List Obligation) : List (Signer × Option Address) :=
  os.flatMap fun o => o.signers.map (·, o.settings.map (vaultAddress v.program))

end Verifier

/-- An obligation whose signers were verified: every signer in its place, with
    the vault of the obligation's wallet. -/
structure Settled (v : Verifier) (o : Obligation) (vo : VerifiedObligation) : Prop where
  -- The wallet is the same.
  settings : vo.settings = o.settings
  -- The instructions are the same.
  instructions : vo.instructions = o.instructions
  -- The signers are the same, in the same order.
  signers : List.Forall₂ VerifiedSigner.Matches o.signers vo.signers
  -- All of them have the vault of the wallet, and none if there is no wallet.
  wallets : ∀ s ∈ vo.signers, Option.Rel (VaultOf v.program) o.settings s.wallet

namespace Auditor

/-- An entry takes its signers from verifying and all else from the obligation. -/
theorem settle_eq_ok (o : Obligation) (signers : Query (List VerifiedSigner))
    (vo : VerifiedObligation) :
    (settle o signers).result = .ok vo ↔
      signers.result = .ok vo.signers ∧ vo.settings = o.settings ∧
        vo.instructions = o.instructions := by
  unfold settle
  rw [Query.result_bind_eq_ok]
  simp only [Query.result_pure, Except.ok.injEq]
  constructor
  · intro h
    rcases h with ⟨verified, hverified, rfl⟩
    exact ⟨hverified, rfl, rfl⟩
  · intro h
    rcases h with ⟨hverified, hsettings, hinstructions⟩
    exact ⟨vo.signers, hverified, by rw [← hsettings, ← hinstructions]⟩

/-- Verifying goes on behind an obligation with the responses and the cache that
    it leaves. -/
theorem verifyEach_cons (a : Auditor) (cache : ClientCache) (o : Obligation)
    (os : List Obligation) (rs : List TimedResponse) :
    a.verifyEach cache (o :: os) rs =
      let own := a.verifier.verify cache o.settings o.signers (rs.take o.passkeyCount)
      let others := a.verifyEach own.2 os (rs.drop o.passkeyCount)
      (settle o own.1 :: others.1, others.2) := by
  rw [verifyEach]

/-- Obligations are verified in one pass over all their signers. -/
theorem verifyEach_dealt (a : Auditor) (cache : ClientCache) (os : List Obligation)
    (rs : List TimedResponse) (vos : List VerifiedObligation)
    (hcount : Signer.passkeyCount (os.flatMap (·.signers)) = rs.length)
    (h : List.Forall₂ (fun q vo => q.result = .ok vo) (a.verifyEach cache os rs).1 vos) :
    List.Forall₂ (Settled a.verifier) os vos ∧
      Dealt a.verifier cache (a.verifier.tasks os) rs (vos.flatMap (·.signers)) := by
  induction os generalizing cache rs vos with
  | nil =>
      rw [List.length_eq_zero_iff.mp hcount.symm, List.forall₂_nil_left_iff.mp h]
      exact ⟨.nil, .nil cache⟩
  | cons o os ih =>
      rw [List.flatMap_cons, Signer.passkeyCount, List.countP_append] at hcount
      rw [verifyEach_cons] at h
      rcases List.forall₂_cons_left_iff.mp h with ⟨vo, rest, ho, hrest, rfl⟩
      rcases (settle_eq_ok _ _ _).mp ho with ⟨hverified, hsettings, hinstructions⟩
      have hdealt := (a.verifier.verify_eq_ok _ _ _ _ _).mp hverified
      -- The obligation takes as many responses as it has passkeys, and leaves as
      -- many as the other obligations have.
      have htake : (rs.take o.passkeyCount).length = o.passkeyCount := by
        rw [List.length_take, Nat.min_eq_left]
        rw [← hcount]
        exact Nat.le_add_right _ _
      have hdrop : Signer.passkeyCount (os.flatMap (·.signers)) =
          (rs.drop o.passkeyCount).length := by
        rw [List.length_drop, ← hcount]
        exact (Nat.add_sub_cancel_left _ _).symm
      -- The other obligations meet the cache that these responses leave.
      have hwarm := a.verifier.verify_cache cache o.settings o.signers _ htake.symm
      rcases ih _ _ rest hdrop hrest with ⟨hsettled, hothers⟩
      rw [hwarm] at hothers
      have hmatches := hdealt.matches_tasks
      rw [List.forall₂_map_left_iff] at hmatches
      have hwallets : ∀ s ∈ vo.signers,
          Option.Rel (VaultOf a.verifier.program) o.settings s.wallet := by
        intro s hs
        rcases Outcome.mem_of_forall₂_right _ _ _ hmatches s hs with ⟨_, _, hmatch⟩
        exact (rel_vaultOf_iff _ _ _).mpr hmatch.2
      have hown : Settled a.verifier o vo :=
        ⟨hsettings, hinstructions, hmatches.imp fun _ _ hs => hs.1, hwallets⟩
      have happend := hdealt.append _ _ _ _ _ _ _ _ hothers
      rw [List.take_append_drop] at happend
      exact ⟨.cons hown hsettled, happend⟩

/-- Obligations that are verified have a response for each passkey, and are
    verified in one pass. -/
theorem verifyObligations_dealt (a : Auditor) (cache : ClientCache) (os : List Obligation)
    (rs : List TimedResponse) (vos : List VerifiedObligation)
    (h : (a.verifyObligations cache os rs).1.result = .ok vos) :
    Signer.passkeyCount (os.flatMap (·.signers)) = rs.length ∧
      List.Forall₂ (Settled a.verifier) os vos ∧
      Dealt a.verifier cache (a.verifier.tasks os) rs (vos.flatMap (·.signers)) := by
  unfold verifyObligations at h
  by_cases hcount : Signer.passkeyCount (os.flatMap (·.signers)) = rs.length
  · rw [if_neg (not_not.mpr hcount)] at h
    have hall := (Query.result_forAll_eq_ok _ _ _).mp h
    exact ⟨hcount, a.verifyEach_dealt cache os rs vos hcount hall⟩
  · rw [if_pos hcount] at h
    exact absurd h (by simp only [Query.result_refuse, reduceCtorEq, not_false_eq_true])

-- Three things are read off a transaction before its signers are.
theorem obligations_eq_ok (a : Auditor) (m : TransactionMessage) (os : List Obligation) :
    (a.obligations m).result = .ok os ↔ ∃ feePayer ixs, m.feePayer = .ok feePayer ∧
      (m.decompile a.ledger.accounts).result = .ok ixs ∧
      (route a.verifier.program a.ledger ixs feePayer).result = .ok os := by
  simp only [obligations, Query.result_bind_eq_ok, Query.result_ofExcept, understood,
    Outcome.mapError_eq_ok, exists_and_left]

/-- What a transaction comes out with if it is verified: it decompiles, it is
    routed, and the obligations are verified in one pass. -/
theorem verifyTransaction_dealt (a : Auditor) (cache : ClientCache) (m : TransactionMessage)
    (rs : List TimedResponse) (vos : List VerifiedObligation)
    (h : (a.verifyTransaction cache m rs).1.result = .ok vos) :
    ∃ feePayer ixs messages os, m.feePayer = .ok feePayer ∧
      (m.decompile a.ledger.accounts).result = .ok ixs ∧ carriedMessages ixs = .ok messages ∧
      List.Forall₂ (fun ix o => (RouteContext.process ⟨a.verifier.program, a.ledger, feePayer,
        messages⟩ ix).result = .ok (some o)) (obliging a.verifier.program ixs) os ∧
      Signer.passkeyCount (os.flatMap (·.signers)) = rs.length ∧
      List.Forall₂ (Settled a.verifier) os vos ∧
      Dealt a.verifier cache (a.verifier.tasks os) rs (vos.flatMap (·.signers)) := by
  unfold verifyTransaction at h
  cases hrouted : (a.obligations m).result with
  | error refusal =>
      simp only [hrouted, reduceCtorEq] at h
  | ok os =>
      simp only [hrouted] at h
      rcases (a.obligations_eq_ok m os).mp hrouted with ⟨feePayer, ixs, hpayer, hixs, hroute⟩
      rcases (route_eq_ok _ _ _ _ _).mp hroute with ⟨_, messages, hmessages, hos⟩
      exact ⟨feePayer, ixs, messages, os, hpayer, hixs, hmessages, hos,
        a.verifyObligations_dealt cache os rs vos h⟩

end Auditor

end Cosigner
