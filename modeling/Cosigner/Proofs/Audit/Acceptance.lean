import Cosigner.Audit.Verify
import Cosigner.Proofs.Client.Cache
import Cosigner.Proofs.Passkey.Token

/-!
# When a Passkey Is Accepted

The check of a passkey is spread over a decoder, five layers and a cache, and
each of them may refuse. This module puts on one page what all of them together
accept.

A response is text, so the page has two columns. `Evidence` is what the text of
a response spells: bytes, client data, a slot hash. `Accepted` is what has to
hold of the evidence: the digests that it has to match, and the parties that
have to vouch for them. Nothing else is looked at, and nothing on the page can
be left out; that is what the equivalence says.

## Main definitions

* `Evidence`: What the text of a response spells.
* `Evidence.challenge`, `Evidence.messageHash`: The two digests that are signed.
* `ClientCache.Obtains`: The identity that is obtained for an origin.
* `Accepted`: Everything that has to hold for a passkey to be accepted.

## Theorems

* `Approval.ofResponse_eq_ok`: A response is decoded exactly if it spells
  evidence in time.
* `Approval.verdict_eq_ok`: The layers, one condition each.
* `ClientCache.lookUp_eq_ok`: A client is found exactly if it is obtained.
* `Verifier.verifyPasskey_eq_ok`: A passkey is verified exactly if it is
  accepted.
* `Verifier.verify_lone_passkey_eq_ok`: The same for the verification of signers.
-/

namespace Cosigner

/-- What the text of a response spells. -/
structure Evidence where
  -- The transaction that the request is for.
  payload : Bytes
  -- Whether the request also sends the transaction.
  send : Bool
  -- The client data as bytes.
  clientDataBytes : Bytes
  -- The client data.
  clientData : ClientData
  -- The authenticator data.
  authenticatorData : Bytes
  -- The hash of the slot that was shown.
  slotHash : Octets 32

namespace Evidence

/-- The text of a response spells the evidence. -/
structure SpelledBy (e : Evidence) (r : AuthorizationResponse) : Prop where
  -- The request is for a transaction, in base64.
  request : ∃ text, r.request.data = .transaction text e.send ∧
    Base64.decodeStandard text = .ok e.payload
  -- The client data is in base64url.
  clientDataBytes : Base64.decodeUrl r.assertion.clientDataJson = .ok e.clientDataBytes
  -- It is a record of the right form.
  clientData : ClientData.read? e.clientDataBytes = some e.clientData
  -- The authenticator data is in base64url.
  authenticatorData : Base64.decodeUrl r.assertion.authenticatorData = .ok e.authenticatorData
  -- The slot hash is in base 58, and 32 bytes long.
  slotHash : Base58.decode? r.slotHash = some e.slotHash.toBytes

/-- The digest that binds together what was asked for: the transaction, the
    client's origin, the device's key, the nonce, the slot hash and the slot. -/
def challenge (e : Evidence) (r : AuthorizationResponse) : Octets 32 :=
  Sha256.digest (e.payload ++ Utf8.encode r.client.origin ++ Utf8.encode r.device.key ++
    Utf8.encode r.nonce ++ e.slotHash.toBytes ++ leBytes 8 r.slot.toNat)

/-- The digest of what the authenticator signed. -/
def messageHash (e : Evidence) : Octets 32 :=
  Sha256.digest (e.authenticatorData ++ (Sha256.digest e.clientDataBytes).toBytes)

/-- The bytes that the client signs: the challenge, if the request also sends
    the transaction, or else the message hash. -/
def clientSigned (e : Evidence) (r : AuthorizationResponse) : Bytes :=
  if e.send then (e.challenge r).toBytes else e.messageHash.toBytes

/-- The decoded response that goes with the evidence. -/
def approval (e : Evidence) (r : AuthorizationResponse) : Approval where
  response := r
  send := e.send
  assertion := ⟨e.clientDataBytes, e.clientData, e.authenticatorData⟩
  challenge := e.challenge r

end Evidence

/-- The identity that is obtained for an origin: the entry that is kept, while it
    is young enough, or else what a document with a key says. -/
inductive ClientCache.Obtains (c : ClientCache) (lifetime : UInt64) (fetch : Fetcher)
    (now stored : UInt64) (origin : String) : ClientIdentity → Prop where
  -- The entry that is kept.
  | kept (entry : ClientIdentity) (hfound : c.find? origin = some entry)
      (hyoung : now.toNat - entry.fetchedAt.toNat < lifetime.toNat) :
      Obtains c lifetime fetch now stored origin entry
  -- What a document says, in the absence of such an entry.
  | fetched (key : String) (trustedDevices : Option (List String))
      (hold : ∀ entry, c.find? origin = some entry →
        lifetime.toNat ≤ now.toNat - entry.fetchedAt.toNat)
      (hdocument : fetch origin = .ok ⟨some key, trustedDevices⟩) :
      Obtains c lifetime fetch now stored origin ⟨key, trustedDevices, stored⟩

/-- Everything that has to hold for a passkey to be accepted with a response. -/
structure Accepted (v : Verifier) (cache : ClientCache) (proof : Option PasskeyProof)
    (r : TimedResponse) (e : Evidence) (identity : ClientIdentity) : Prop where
  -- The request has not run out.
  inTime : r.readings.checked ≤ r.response.request.validTill
  -- The response spells the evidence.
  spelled : e.SpelledBy r.response
  -- The browser asked for an assertion.
  type : e.clientData.type = "webauthn.get"
  -- The transaction carries what the authenticator signed, for the same slot.
  proven : proof = some ⟨e.messageHash, r.response.slot⟩
  -- The browser was given the challenge of the request.
  challenge : Base64.decodeUrl e.clientData.challenge = .ok (e.challenge r.response).toBytes
  -- The device vouches for the message hash.
  device : Vouched v.schemes r.response.device.key r.response.device.token e.messageHash.toBytes
  -- The client's identity is obtained.
  obtained : cache.Obtains v.lifetime v.fetch r.readings.lookedUp r.readings.stored
    r.response.client.origin identity
  -- The client vouches with the key of that identity.
  client : Vouched v.schemes identity.key r.response.client.token (e.clientSigned r.response)
  -- The auth provider vouches for the message hash, if there is one.
  authProvider : ∀ provider, r.response.authProvider = some provider →
    Vouched v.schemes provider.key provider.token e.messageHash.toBytes
  -- A request that also sends the transaction has an auth provider.
  provided : r.response.authProvider = none → e.send = false

/-- The text of a response spells only one thing. -/
theorem Evidence.SpelledBy.unique (e e' : Evidence) (r : AuthorizationResponse)
    (h : e.SpelledBy r) (h' : e'.SpelledBy r) : e = e' := by
  rcases e with ⟨payload, send, bs, clientData, authenticatorData, ⟨slotHash, hlength⟩⟩
  rcases e' with ⟨payload', send', bs', clientData', authenticatorData', ⟨slotHash', hlength'⟩⟩
  rcases h with ⟨⟨text, hrequest, hpayload⟩, hbytes, hread, hdata, hslot⟩
  rcases h' with ⟨⟨text', hrequest', hpayload'⟩, hbytes', hread', hdata', hslot'⟩
  simp only at *
  -- Each part is decoded from the same text on both sides.
  rcases RequestData.transaction.inj (hrequest.symm.trans hrequest') with ⟨rfl, rfl⟩
  rcases Except.ok.inj (hpayload.symm.trans hpayload') with rfl
  rcases Except.ok.inj (hbytes.symm.trans hbytes') with rfl
  rcases Option.some.inj (hread.symm.trans hread') with rfl
  rcases Except.ok.inj (hdata.symm.trans hdata') with rfl
  rcases Option.some.inj (hslot.symm.trans hslot') with rfl
  rfl

theorem slotHashOf?_eq_some (text : String) (hash : Octets 32) :
    slotHashOf? text = some hash ↔ Base58.decode? text = some hash.toBytes := by
  unfold slotHashOf?
  rw [Option.bind_eq_bind, Option.bind_eq_some_iff]
  constructor
  · intro h
    rcases h with ⟨bs, hbs, hblock⟩
    unfold Octets.ofBytes? at hblock
    split at hblock
    · rw [← Option.some.inj hblock]
      exact hbs
    · exact absurd hblock (by simp only [reduceCtorEq, not_false_eq_true])
  · intro h
    exact ⟨hash.toBytes, h, dif_pos hash.length_eq⟩

theorem DecodedAssertion.ofAssertion_eq_ok (a : WebAuthnAssertion) (d : DecodedAssertion) :
    ofAssertion a = .ok d ↔
      Base64.decodeUrl a.clientDataJson = .ok d.clientDataBytes ∧
      ClientData.read? d.clientDataBytes = some d.clientData ∧
      Base64.decodeUrl a.authenticatorData = .ok d.authenticatorData := by
  unfold ofAssertion
  rw [Outcome.bind_eq_ok]
  constructor
  · intro h
    rcases h with ⟨bs, hbs, hrest⟩
    rw [Outcome.mapError_eq_ok] at hbs
    cases hread : ClientData.read? bs with
    | none =>
        -- Refused, before the authenticator data is even decoded.
        rw [hread] at hrest
        exact absurd hrest (by simp only [Outcome.throw_eq, reduceCtorEq, not_false_eq_true])
    | some clientData =>
        simp only [hread, Outcome.bind_eq_ok, Outcome.mapError_eq_ok, Outcome.pure_eq_ok] at hrest
        rcases hrest with ⟨authenticatorData, hdata, rfl⟩
        exact ⟨hbs, hread, hdata⟩
  · intro h
    rcases h with ⟨hbs, hread, hdata⟩
    refine ⟨d.clientDataBytes, (Outcome.mapError_eq_ok _ _ _).mpr hbs, ?_⟩
    simp only [hread, Outcome.bind_eq_ok, Outcome.mapError_eq_ok, Outcome.pure_eq_ok]
    exact ⟨d.authenticatorData, hdata, rfl⟩

namespace Approval

/-- What decoding has to find, for a request for a transaction. -/
theorem decode_eq_ok (r : AuthorizationResponse) (text : String) (send : Bool) (a : Approval) :
    decode r text send = .ok a ↔
      ∃ e : Evidence, e.send = send ∧ Base64.decodeStandard text = .ok e.payload ∧
        Base64.decodeUrl r.assertion.clientDataJson = .ok e.clientDataBytes ∧
        ClientData.read? e.clientDataBytes = some e.clientData ∧
        Base64.decodeUrl r.assertion.authenticatorData = .ok e.authenticatorData ∧
        Base58.decode? r.slotHash = some e.slotHash.toBytes ∧ e.approval r = a := by
  unfold decode
  simp only [Outcome.bind_eq_ok, Outcome.mapError_eq_ok, DecodedAssertion.ofAssertion_eq_ok]
  constructor
  · intro h
    rcases h with ⟨assertion, ⟨hclient, hread, hdata⟩, payload, hpayload, hrest⟩
    cases hslot : slotHashOf? r.slotHash with
    | none =>
        rw [hslot] at hrest
        exact absurd hrest (by simp only [Outcome.throw_eq, reduceCtorEq, not_false_eq_true])
    | some slotHash =>
        rw [hslot] at hrest
        -- What was decoded on the way is the evidence.
        exact ⟨⟨payload, send, assertion.clientDataBytes, assertion.clientData,
          assertion.authenticatorData, slotHash⟩, rfl, hpayload, hclient, hread, hdata,
          (slotHashOf?_eq_some _ _).mp hslot, (Outcome.pure_eq_ok _ _).mp hrest⟩
  · intro h
    rcases h with ⟨e, rfl, hpayload, hclient, hread, hdata, hslot, rfl⟩
    refine ⟨⟨e.clientDataBytes, e.clientData, e.authenticatorData⟩, ⟨hclient, hread, hdata⟩,
      e.payload, hpayload, ?_⟩
    rw [(slotHashOf?_eq_some _ _).mpr hslot]
    rfl

/-- A response is decoded exactly if it spells evidence and arrives in time. -/
theorem ofResponse_eq_ok (now : UInt64) (r : AuthorizationResponse) (a : Approval) :
    ofResponse now r = .ok a ↔
      now ≤ r.request.validTill ∧ ∃ e : Evidence, e.SpelledBy r ∧ e.approval r = a := by
  unfold ofResponse
  rw [Outcome.ite_error_eq_ok, UInt64.not_lt]
  refine and_congr_right fun _ => ?_
  cases hdata : r.request.data with
  | message payload =>
      -- A request for a message spells no evidence.
      constructor
      · intro h
        exact absurd h (by simp only [RequestData.transaction?, reduceCtorEq, not_false_eq_true])
      · intro h
        rcases h with ⟨e, hspelled, _⟩
        rcases hspelled.request with ⟨text, htext, _⟩
        rw [hdata] at htext
        exact absurd htext (by simp only [reduceCtorEq, not_false_eq_true])
  | transaction text send =>
      simp only [RequestData.transaction?, Outcome.mapError_eq_ok, decode_eq_ok]
      constructor
      · intro h
        rcases h with ⟨e, rfl, hpayload, hclient, hread, hauthenticator, hslot, ha⟩
        exact ⟨e, ⟨⟨text, hdata, hpayload⟩, hclient, hread, hauthenticator, hslot⟩, ha⟩
      · intro h
        rcases h with ⟨e, hspelled, ha⟩
        rcases hspelled.request with ⟨text', htext, hpayload⟩
        rw [hdata] at htext
        injection htext with htext hsend
        rw [← htext] at hpayload
        exact ⟨e, hsend.symm, hpayload, hspelled.clientDataBytes, hspelled.clientData,
          hspelled.authenticatorData, hspelled.slotHash, ha⟩

/-- The first layer, when a message of the passkey is known. -/
theorem checkChallenge_eq_ok (e : Evidence) (r : AuthorizationResponse) (p : PasskeyProof) :
    (e.approval r).checkChallenge (some p) = .ok () ↔
      e.clientData.type = "webauthn.get" ∧ p.slot = r.slot ∧
        Base64.decodeUrl e.clientData.challenge = .ok (e.challenge r).toBytes := by
  unfold checkChallenge Evidence.approval DecodedAssertion.challenge
  simp only [Outcome.throw_eq, Outcome.error_bind, Outcome.bind_eq_ok, Outcome.ite_error_eq_ok,
    Outcome.mapError_eq_ok, Outcome.pure_eq_ok, ne_eq, not_not]
  constructor
  · intro h
    rcases h with ⟨htype, hslot, challenge, hchallenge, heq, _⟩
    exact ⟨htype, hslot, heq ▸ hchallenge⟩
  · intro h
    rcases h with ⟨htype, hslot, hchallenge⟩
    exact ⟨htype, hslot, (e.challenge r).toBytes, hchallenge, rfl, trivial⟩

/-- The second layer. It is the one that needs a message to be known. -/
theorem checkMessageHash_eq_ok (e : Evidence) (r : AuthorizationResponse)
    (proof : Option PasskeyProof) :
    (e.approval r).checkMessageHash proof = .ok () ↔
      ∃ p, proof = some p ∧ p.messageHash = e.messageHash := by
  have hhash : (e.approval r).assertion.messageHash = e.messageHash := by
    simp only [Evidence.approval, Evidence.messageHash, DecodedAssertion.messageHash,
      DecodedAssertion.signedMessage]
  cases proof with
  | none => simp only [checkMessageHash, reduceCtorEq, false_and, exists_false]
  | some p =>
      simp only [checkMessageHash, hhash, Outcome.ite_else_error_eq_ok, and_true,
        Option.some.injEq, exists_eq_left']

/-- The third layer, when a message of the passkey is known. -/
theorem checkDevice_eq_ok (schemes : SignatureSchemes) (a : Approval) (p : PasskeyProof) :
    checkDevice schemes a (some p) = .ok () ↔
      Vouched schemes a.response.device.key a.response.device.token p.messageHash.toBytes := by
  simp only [checkDevice, hashBytes, Option.map_some, checkToken_eq_ok, Option.some.injEq,
    exists_eq_left']

/-- The fourth layer, when a message of the passkey is known. -/
theorem checkClient_eq_ok (schemes : SignatureSchemes) (e : Evidence) (r : AuthorizationResponse)
    (slot : UInt64) (identity : ClientIdentity) :
    checkClient schemes (e.approval r) (some ⟨e.messageHash, slot⟩) identity = .ok () ↔
      Vouched schemes identity.key r.client.token (e.clientSigned r) := by
  have hsigned : (e.approval r).clientBytes (some ⟨e.messageHash, slot⟩) =
      some (e.clientSigned r) := by
    unfold clientBytes Evidence.clientSigned
    by_cases hsend : (e.approval r).send = true
    · rw [if_pos hsend]
      exact congrArg some (if_pos hsend).symm
    · rw [if_neg hsend]
      exact congrArg some (if_neg hsend).symm
  unfold checkClient
  rw [Outcome.mapError_eq_ok, checkToken_eq_ok, hsigned]
  simp only [Option.some.injEq, exists_eq_left']
  rfl

/-- The last layer, when a message of the passkey is known. -/
theorem checkAuthProvider_eq_ok (schemes : SignatureSchemes) (a : Approval) (p : PasskeyProof)
    (key : Option String) :
    checkAuthProvider schemes a (some p) = .ok key ↔
      (∀ provider, a.response.authProvider = some provider →
        Vouched schemes provider.key provider.token p.messageHash.toBytes) ∧
      (a.response.authProvider = none → a.send = false) ∧
      key = a.response.authProvider.map (·.key) := by
  unfold checkAuthProvider
  cases a.response.authProvider with
  | none =>
      cases a.send with
      | true =>
          -- A transaction that is to be sent needs a provider.
          exact iff_of_false (fun h => nomatch h) fun h => nomatch h.2.1 rfl
      | false =>
          rw [if_neg Bool.false_ne_true, Except.ok.injEq]
          exact ⟨fun h => ⟨fun _ hprovider => (nomatch hprovider), fun _ => rfl, h.symm⟩,
            fun h => h.2.2.symm⟩
  | some provider =>
      have htoken := checkToken_eq_ok schemes provider.key provider.token (hashBytes (some p))
      simp only [hashBytes, Option.map_some, Option.some.injEq, exists_eq_left'] at htoken
      simp only [hashBytes, Option.map_some, Option.some.injEq, forall_eq', reduceCtorEq,
        false_implies, true_and, ← htoken]
      cases checkToken schemes provider.key provider.token (some p.messageHash.toBytes) with
      | error fault => simp only [reduceCtorEq, false_and]
      | ok u => simp only [Except.ok.injEq, true_and, eq_comm]

/-- All layers, one condition each. The second layer leaves no doubt what is
    known of the passkey's message, and the others are read with that. -/
theorem verdict_eq_ok (schemes : SignatureSchemes) (e : Evidence) (r : AuthorizationResponse)
    (proof : Option PasskeyProof) (client : Except Refusal ClientIdentity)
    (identity : ClientIdentity) (key : Option String) :
    verdict schemes (e.approval r) proof client = .ok (identity, key) ↔
      e.clientData.type = "webauthn.get" ∧
      proof = some ⟨e.messageHash, r.slot⟩ ∧
      Base64.decodeUrl e.clientData.challenge = .ok (e.challenge r).toBytes ∧
      Vouched schemes r.device.key r.device.token e.messageHash.toBytes ∧
      client = .ok identity ∧
      Vouched schemes identity.key r.client.token (e.clientSigned r) ∧
      (∀ provider, r.authProvider = some provider →
        Vouched schemes provider.key provider.token e.messageHash.toBytes) ∧
      (r.authProvider = none → e.send = false) ∧
      key = r.authProvider.map (·.key) := by
  unfold verdict
  simp only [Outcome.bind_eq_ok, Outcome.mapError_eq_ok, Outcome.pure_eq_ok, Prod.mk.injEq]
  constructor
  · intro h
    rcases h with ⟨_, hchallenge, _, hhash, _, hdevice, found, hfound, _, hclient, key', hprovider,
      rfl, rfl⟩
    -- The second layer says that a message is known, and which; the first one
    -- already named its slot.
    rcases (checkMessageHash_eq_ok _ _ _).mp hhash with ⟨⟨hash, slot⟩, rfl, rfl⟩
    rcases (checkChallenge_eq_ok _ _ _).mp hchallenge with ⟨htype, rfl, hdecoded⟩
    rcases (checkAuthProvider_eq_ok _ _ _ _).mp hprovider with ⟨hvouched, hsend, hkey⟩
    have hdeviceVouches := (checkDevice_eq_ok _ _ _).mp hdevice
    have hclientVouches := (checkClient_eq_ok _ _ _ _ _).mp hclient
    exact ⟨htype, rfl, hdecoded, hdeviceVouches, hfound, hclientVouches, hvouched, hsend, hkey⟩
  · intro h
    rcases h with ⟨htype, rfl, hdecoded, hdevice, hfound, hclient, hvouched, hsend, hkey⟩
    exact ⟨(), (checkChallenge_eq_ok _ _ _).mpr ⟨htype, rfl, hdecoded⟩,
      (), (checkMessageHash_eq_ok _ _ _).mpr ⟨_, rfl, rfl⟩,
      (), (checkDevice_eq_ok _ _ _).mpr hdevice, identity, hfound,
      (), (checkClient_eq_ok _ _ _ _ _).mpr hclient,
      key, (checkAuthProvider_eq_ok _ _ _ _).mpr ⟨hvouched, hsend, hkey⟩, rfl, rfl⟩

end Approval

namespace ClientCache

/-- A client is found exactly if its identity is obtained. -/
theorem lookUp_eq_ok (c : ClientCache) (lifetime : UInt64) (fetch : Fetcher)
    (now stored : UInt64) (origin : String) (identity : ClientIdentity) :
    (c.lookUp lifetime fetch now stored origin).1.result = .ok identity ↔
      c.Obtains lifetime fetch now stored origin identity := by
  unfold lookUp
  cases hfresh : c.fresh? lifetime now origin with
  | some entry =>
      -- The entry is reused, and no document is asked for.
      rcases (fresh?_eq_some c lifetime now origin entry).mp hfresh with ⟨hfound, hyoung⟩
      simp only [Query.result_pure, Except.ok.injEq]
      constructor
      · rintro rfl
        exact .kept entry hfound hyoung
      · intro h
        cases h with
        | kept _ hother _ => exact Option.some.inj (hfound.symm.trans hother)
        | fetched _ _ hold _ => exact absurd (hold entry hfound) (Nat.not_le.mpr hyoung)
  | none =>
      -- No entry may be reused, so the document decides.
      have hold := (fresh?_eq_none c lifetime now origin).mp hfresh
      have hanswer := identityOf_eq_ok origin stored (fetch origin)
      constructor
      · intro h
        cases hid : identityOf origin stored (fetch origin) with
        | error refusal =>
            simp only [hid, Query.result_ask, reduceCtorEq] at h
        | ok entry =>
            simp only [hid, Query.result_ask, Except.ok.injEq] at h
            rcases (hanswer entry).mp hid with ⟨key, devices, hdocument, rfl⟩
            rw [← h]
            exact .fetched key devices hold hdocument
      · intro h
        cases h with
        | kept _ hfound hyoung => exact absurd (hold _ hfound) (Nat.not_le.mpr hyoung)
        | fetched key devices _ hdocument =>
            rw [(hanswer _).mpr ⟨key, devices, hdocument, rfl⟩]
            rfl

end ClientCache

namespace Verifier

/-- A passkey is verified exactly if it is accepted. What comes out then names
    the parties that approved. -/
theorem verifyPasskey_eq_ok (v : Verifier) (wallet : Option Address) (cache : ClientCache)
    (key : Passkey) (proof : Option PasskeyProof) (r : TimedResponse) (s : VerifiedSigner) :
    (v.verifyPasskey wallet cache key proof r).1.result = .ok s ↔
      ∃ e identity, Accepted v cache proof r e identity ∧
        s = .passkey key wallet ⟨r.response.client.origin, identity⟩ r.response.device.key
          (r.response.authProvider.map (·.key)) := by
  unfold verifyPasskey
  cases hdecoded : Approval.ofResponse r.readings.checked r.response with
  | error refusal =>
      -- Nothing was decoded, so there is no evidence to accept.
      simp only [Query.result_refuse, reduceCtorEq, false_iff]
      intro h
      rcases h with ⟨e, identity, haccepted, _⟩
      have := (Approval.ofResponse_eq_ok _ _ _).mpr
        ⟨haccepted.inTime, e, haccepted.spelled, rfl⟩
      rw [hdecoded] at this
      exact absurd this (by simp only [reduceCtorEq, not_false_eq_true])
  | ok approval =>
      rcases (Approval.ofResponse_eq_ok _ _ _).mp hdecoded with ⟨htime, e, hspelled, rfl⟩
      simp only [Outcome.bind_eq_ok, Outcome.pure_eq_ok, Prod.exists, Approval.verdict_eq_ok,
        ClientCache.lookUp_eq_ok]
      constructor
      · intro h
        rcases h with ⟨identity, provider, ⟨htype, hproven, hchallenge, hdevice, hobtained, hclient,
          hprovider, hsend, rfl⟩, rfl⟩
        exact ⟨e, identity, ⟨htime, hspelled, htype, hproven, hchallenge, hdevice, hobtained,
          hclient, hprovider, hsend⟩, rfl⟩
      · intro h
        rcases h with ⟨e', identity, haccepted, rfl⟩
        -- The evidence at hand is the only one that the response spells.
        rcases hspelled.unique e e' r.response haccepted.spelled with rfl
        exact ⟨identity, _, ⟨haccepted.type, haccepted.proven, haccepted.challenge,
          haccepted.device, haccepted.obtained, haccepted.client, haccepted.authProvider,
          haccepted.provided, rfl⟩, rfl⟩

/-- When a single passkey is verified with a single response. What comes out
    carries the vault of the settings address, and names the parties that
    approved. -/
theorem verify_lone_passkey_eq_ok (v : Verifier) (cache : ClientCache) (settings : Option Address)
    (key : Passkey) (proof : Option PasskeyProof) (r : TimedResponse)
    (signers : List VerifiedSigner) :
    (v.verify cache settings [.passkey key proof] [r]).1.result = .ok signers ↔
      ∃ e identity, Accepted v cache proof r e identity ∧
        signers = [.passkey key (settings.map (vaultAddress v.program))
          ⟨r.response.client.origin, identity⟩ r.response.device.key
          (r.response.authProvider.map (·.key))] := by
  have hverify : (v.verify cache settings [.passkey key proof] [r]).1 =
      Query.forAll [(v.verifyPasskey (settings.map (vaultAddress v.program)) cache key proof
        r).1] id := rfl
  rw [hverify, Query.result_forAll_eq_ok, List.forall₂_cons_left_iff]
  simp only [id, verifyPasskey_eq_ok, List.forall₂_nil_left_iff]
  constructor
  · intro h
    rcases h with ⟨s, _, ⟨e, identity, haccepted, rfl⟩, rfl, rfl⟩
    exact ⟨e, identity, haccepted, rfl⟩
  · intro h
    rcases h with ⟨e, identity, haccepted, rfl⟩
    exact ⟨_, [], ⟨e, identity, haccepted, rfl⟩, rfl, rfl⟩

end Verifier

end Cosigner
