import Cosigner.Audit.Approval
import Cosigner.Ledger.Wallets

/-!
# Verifying Signers

The signers of an obligation are verified in order. Plain signers are taken as
they are; each passkey takes the next response. The number of responses is
compared with the number of passkeys beforehand, so none is left over and none
is missing.

Looking up clients changes the cache, and a later passkey may profit from what
an earlier one looked up. No lookup is left out because something else was
refused.

## Main definitions

* `TimedResponse`: A response with the clock readings of its handling.
* `Verifier`: What signatures are checked with.
* `VerifiedSigner`: A signer that was verified.
* `Verifier.verify`: Verifies signers.
-/

namespace Cosigner

/-- What the clock says while a response is handled, in milliseconds of Unix
    time. -/
structure Readings where
  /-- When the request is checked for having run out. -/
  checked : UInt64
  /-- When the client is looked up. -/
  lookedUp : UInt64
  /-- When a fetched document is stored. -/
  stored : UInt64
  deriving DecidableEq

/-- A response with the clock readings of its handling. -/
structure TimedResponse where
  /-- The response. -/
  response : AuthorizationResponse
  /-- The readings. -/
  readings : Readings
  deriving DecidableEq

/-- What signatures are checked with. -/
structure Verifier where
  /-- Where the wallet program lives. -/
  program : Address
  /-- How signatures are checked. -/
  schemes : SignatureSchemes
  /-- How long the identity of a client is reused. -/
  lifetime : UInt64
  /-- How documents of clients are fetched. -/
  fetch : Fetcher

/-- The client that a passkey was used through. -/
structure VerifiedClient where
  /-- Its origin. -/
  origin : String
  /-- What is kept of it. -/
  identity : ClientIdentity
  deriving DecidableEq

/-- A signer that was verified, with the vault of its wallet. -/
inductive VerifiedSigner where
  /-- A key that signed the transaction. -/
  | plain (key : Address) (wallet : Option Address)
  /-- A passkey, with the keys of all parties that approved. -/
  | passkey (key : Passkey) (wallet : Option Address) (client : VerifiedClient)
      (deviceKey : String) (authProviderKey : Option String)
  deriving DecidableEq

/-- The vault of a verified signer's wallet. -/
def VerifiedSigner.wallet : VerifiedSigner → Option Address
  | .plain _ wallet => wallet
  | .passkey _ wallet _ _ _ => wallet

namespace Verifier

/-- Verifies a passkey with its response. A client is looked up as soon as the
    response is decoded. -/
def verifyPasskey (v : Verifier) (wallet : Option Address) (cache : ClientCache)
    (key : Passkey) (proof : Option PasskeyProof) (r : TimedResponse) :
    Query VerifiedSigner × ClientCache :=
  match Approval.ofResponse r.readings.checked r.response with
  | .error refusal => (.refuse refusal, cache)
  | .ok approval =>
    let origin := r.response.client.origin
    let (client, after) :=
      cache.lookUp v.lifetime v.fetch r.readings.lookedUp r.readings.stored origin
    let result := do
      let (identity, provider) ← approval.verdict v.schemes proof client.result
      return .passkey key wallet ⟨origin, identity⟩ r.response.device.key provider
    (⟨result, client.reads⟩, after)

/-- Verifies signers one after another, all of them. Each passkey takes one
    response; passkeys beyond the last response find the count in error. -/
def verifyEach (v : Verifier) (wallet : Option Address) (expected : Nat) :
    ClientCache → List Signer → List TimedResponse → List (Query VerifiedSigner) × ClientCache
  | cache, [], _ => ([], cache)
  | cache, .plain key :: signers, responses =>
    let (others, after) := v.verifyEach wallet expected cache signers responses
    (pure (.plain key wallet) :: others, after)
  | cache, .passkey key proof :: signers, r :: responses =>
    let (own, between) := v.verifyPasskey wallet cache key proof r
    let (others, after) := v.verifyEach wallet expected between signers responses
    (own :: others, after)
  | cache, .passkey _ _ :: signers, [] =>
    let (others, after) := v.verifyEach wallet expected cache signers []
    (.refuse (.responseCount expected (expected - 1)) :: others, after)

/-- Verifies the signers of an obligation. -/
def verify (v : Verifier) (cache : ClientCache) (settings : Option Address)
    (signers : List Signer) (responses : List TimedResponse) :
    Query (List VerifiedSigner) × ClientCache :=
  let expected := Signer.passkeyCount signers
  if expected ≠ responses.length then
    (.refuse (.responseCount expected responses.length), cache)
  else
    let wallet := settings.map (vaultAddress v.program)
    let (queries, after) := v.verifyEach wallet expected cache signers responses
    (Query.forAll queries id, after)

end Verifier

end Cosigner
