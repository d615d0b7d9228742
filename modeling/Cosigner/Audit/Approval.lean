import Cosigner.Audit.Signers
import Cosigner.Client.Cache
import Cosigner.Passkey.Token

/-!
# Approval by a Passkey's Owner

The response of a passkey's owner is looked at in two stages. First it is
decoded: the request must not have run out, it has to be for a transaction, and
its parts have to be readable. A response that fails here has no further checks,
and the client's document is not even asked for.

Then five layers are checked. The challenge in the assertion is the request's.
The assertion is the message that the transaction carries. The device signed the
hash of that message. The client signed too: the challenge, if the request also
sends the transaction, or else the message hash. And the auth provider signed
the message hash, if there is one; a request that sends the transaction needs
one.

The first layer that refuses is the one reported, whatever the others say.

## Main definitions

* `Approval`: A response with its parts decoded.
* `Approval.ofResponse`: The first stage.
* `Approval.verdict`: The second stage.
-/

namespace Cosigner

/-- A response with its parts decoded. -/
structure Approval where
  /-- The response. -/
  response : AuthorizationResponse
  /-- Whether the request also sends the transaction. -/
  send : Bool
  /-- The assertion of the passkey. -/
  assertion : DecodedAssertion
  /-- The challenge that the request asks for. -/
  challenge : Octets 32
  deriving DecidableEq

/-- The transaction that a request is for, in base64, and whether the request
    also sends it. -/
def RequestData.transaction? : RequestData → Option (String × Bool)
  | .transaction payload send => some (payload, send)
  | .message _ => none

/-- The hash of a slot, from its base 58 form. -/
def slotHashOf? (text : String) : Option (Octets 32) :=
  Base58.decode? text >>= Octets.ofBytes? 32

namespace Approval

/-- The parts of a response that its challenge binds together. -/
def challengeInput (r : AuthorizationResponse) (payload : Bytes) (slotHash : Octets 32) :
    ChallengeInput where
  payload := payload
  origin := r.client.origin
  deviceKey := r.device.key
  nonce := r.nonce
  slotHash := slotHash
  slot := r.slot

/-- Decodes a response to a request for a transaction. -/
def decode (r : AuthorizationResponse) (payload : String) (send : Bool) :
    Except ResponseFault Approval := do
  let assertion ← DecodedAssertion.ofAssertion r.assertion
  let payload ← (Base64.decodeStandard payload).mapError .payload
  match slotHashOf? r.slotHash with
  | none => throw .slotHash
  | some slotHash => return ⟨r, send, assertion, (challengeInput r payload slotHash).challenge⟩

/-- Decodes a response that arrives at a given time. -/
def ofResponse (now : UInt64) (r : AuthorizationResponse) : Except Refusal Approval :=
  if r.request.validTill < now then .error (.expired r.request.validTill now)
  else
    match r.request.data.transaction? with
    | none => .error .notTransaction
    | some (payload, send) => (decode r payload send).mapError .malformedResponse

/-- The first layer: the challenge in the assertion is the request's, and the
    response is for the slot that the instruction names. -/
def checkChallenge (a : Approval) (proof : Option PasskeyProof) : Except ChallengeFault Unit := do
  if a.assertion.clientData.type ≠ ClientData.getType then
    throw (.wrongType a.assertion.clientData.type)
  if let some p := proof then
    if p.slot ≠ a.response.slot then throw (.wrongSlot a.response.slot p.slot)
  let challenge ← a.assertion.challenge.mapError .encoding
  if challenge ≠ a.challenge.toBytes then throw .mismatch

/-- The second layer: the assertion is the message that the transaction
    carries. -/
def checkMessageHash (a : Approval) : Option PasskeyProof → Except MessageHashFault Unit
  | none => .error .unknown
  | some p => if p.messageHash = a.assertion.messageHash then .ok () else .error .mismatch

/-- A party's token is one of its key for the bytes that must be signed. -/
def checkToken (schemes : SignatureSchemes) (key token : String) (signed : Option Bytes) :
    Except ApprovalFault Unit := do
  match signed with
  | none => throw .nothingSigned
  | some bytes =>
    let key ← (WebKey.ofText key).mapError .key
    (Token.verify schemes token key bytes).mapError .token

/-- The message hash as the bytes that a party signs. -/
def hashBytes (proof : Option PasskeyProof) : Option Bytes :=
  proof.map (·.messageHash.toBytes)

/-- The third layer: the device signed the message hash. -/
def checkDevice (schemes : SignatureSchemes) (a : Approval) (proof : Option PasskeyProof) :
    Except ApprovalFault Unit :=
  checkToken schemes a.response.device.key a.response.device.token (hashBytes proof)

/-- What the client signs. -/
def clientBytes (a : Approval) (proof : Option PasskeyProof) : Option Bytes :=
  if a.send then some a.challenge.toBytes else hashBytes proof

/-- The fourth layer: the client signed, with the key that it publishes. -/
def checkClient (schemes : SignatureSchemes) (a : Approval) (proof : Option PasskeyProof)
    (identity : ClientIdentity) : Except ClientFault Unit :=
  (checkToken schemes identity.key a.response.client.token (a.clientBytes proof)).mapError .approval

/-- The last layer: the auth provider signed, if there is one. The answer is its
    key. -/
def checkAuthProvider (schemes : SignatureSchemes) (a : Approval) (proof : Option PasskeyProof) :
    Except Refusal (Option String) :=
  match a.response.authProvider with
  | none => if a.send then .error .missingAuthProvider else .ok none
  | some provider =>
    match checkToken schemes provider.key provider.token (hashBytes proof) with
    | .ok () => .ok (some provider.key)
    | .error fault => .error (.authProvider fault)

/-- All layers in their order, given what came of looking up the client. The
    answer is the client's identity and the key of the auth provider. -/
def verdict (schemes : SignatureSchemes) (a : Approval) (proof : Option PasskeyProof)
    (client : Except Refusal ClientIdentity) :
    Except Refusal (ClientIdentity × Option String) := do
  (a.checkChallenge proof).mapError .challenge
  (a.checkMessageHash proof).mapError .messageHash
  (checkDevice schemes a proof).mapError .device
  let identity ← client
  (checkClient schemes a proof identity).mapError .client
  return (identity, ← checkAuthProvider schemes a proof)

end Approval

end Cosigner
