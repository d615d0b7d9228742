import Cosigner.Passkey.Response
import Cosigner.Passkey.WebKey

/-!
# WebAuthn Assertions

An assertion says that a user touched an authenticator while a browser showed a
page. What the authenticator signs is its own data followed by the SHA-256
digest of the client data, a JSON record in which the browser notes the page's
origin and the challenge that it was given.

The challenge of a transaction is a digest over what the user was asked to
approve. Its six fields are joined without separators, because the wallet
program joins them that way on chain, and the digests have to agree.

## Main definitions

* `DecodedAssertion`: An assertion with its fields decoded.
* `DecodedAssertion.signedMessage`: What the authenticator signed.
* `ChallengeInput.preimage`: The bytes under the digest of a challenge.
* `ChallengeInput.challenge`: The challenge of a transaction.
-/

namespace Cosigner

/-- Why an authorization response cannot be decoded. -/
inductive ResponseFault where
  /-- The client data is not base64url. -/
  | clientDataText (fault : Base64.Fault)
  /-- The client data is no record of the right form. -/
  | clientDataForm
  /-- The authenticator data is not base64url. -/
  | authenticatorData (fault : Base64.Fault)
  /-- The payload is not base64. -/
  | payload (fault : Base64.Fault)
  /-- The slot hash does not spell 32 bytes. -/
  | slotHash
  deriving DecidableEq, Repr

/-- Wording of the fault. -/
def ResponseFault.message : ResponseFault → String
  | .clientDataText fault =>
    s!"clientDataJSON: {(TokenError.encoding (.base64 fault)).message}"
  | .clientDataForm => s!"clientDataJSON: {Json.complaint}"
  | .authenticatorData fault =>
    s!"authenticatorData: {(TokenError.encoding (.base64 fault)).message}"
  | .payload fault => s!"payload: {fault.message}"
  | .slotHash => "slotHash is not a base58 32-byte hash"

/-- The record in which a browser notes what it did. -/
structure ClientData where
  /-- What the browser did. -/
  type : String
  /-- The challenge that it was given, in base64url. -/
  challenge : String
  /-- The origin of the page. -/
  origin : String
  /-- Whether the page was embedded in one of another origin. -/
  crossOrigin : Option Bool
  deriving DecidableEq

namespace ClientData

/-- What a browser does when it asks for an assertion. -/
def getType : String := "webauthn.get"

/-- Reads client data from JSON text. -/
def read? (text : Bytes) : Option ClientData := do
  let r ← Json.read? text >>= Json.record? ["type", "challenge", "origin", "crossOrigin"]
  return ⟨← r.required? "type" Json.text?, ← r.required? "challenge" Json.text?,
    ← r.required? "origin" Json.text?, ← r.defaulted? "crossOrigin" none (Json.option? Json.bool?)⟩

end ClientData

/-- An assertion with its fields decoded. -/
structure DecodedAssertion where
  /-- The client data as bytes. -/
  clientDataBytes : Bytes
  /-- The client data. -/
  clientData : ClientData
  /-- The authenticator data. -/
  authenticatorData : Bytes
  deriving DecidableEq

namespace DecodedAssertion

/-- Decodes the fields of an assertion. -/
def ofAssertion (a : WebAuthnAssertion) : Except ResponseFault DecodedAssertion := do
  let bs ← (Base64.decodeUrl a.clientDataJson).mapError .clientDataText
  match ClientData.read? bs with
  | none => throw .clientDataForm
  | some clientData =>
    let authenticatorData ← (Base64.decodeUrl a.authenticatorData).mapError .authenticatorData
    return ⟨bs, clientData, authenticatorData⟩

/-- What the authenticator signed. -/
def signedMessage (a : DecodedAssertion) : Bytes :=
  a.authenticatorData ++ (Sha256.digest a.clientDataBytes).toBytes

/-- The digest of what the authenticator signed. -/
def messageHash (a : DecodedAssertion) : Octets 32 :=
  Sha256.digest a.signedMessage

/-- The challenge that the browser was given. -/
def challenge (a : DecodedAssertion) : Except Base64.Fault Bytes :=
  Base64.decodeUrl a.clientData.challenge

end DecodedAssertion

/-- What a challenge binds together. -/
structure ChallengeInput where
  /-- The transaction. -/
  payload : Bytes
  /-- The origin of the client. -/
  origin : String
  /-- The device's key, as it was sent. -/
  deviceKey : String
  /-- A value used once. -/
  nonce : String
  /-- The hash of the slot that was shown. -/
  slotHash : Octets 32
  /-- The slot. -/
  slot : UInt64
  deriving DecidableEq

namespace ChallengeInput

/-- The bytes under the digest: the fields in a row. -/
def preimage (c : ChallengeInput) : Bytes :=
  c.payload ++ Utf8.encode c.origin ++ Utf8.encode c.deviceKey ++ Utf8.encode c.nonce
    ++ c.slotHash.toBytes ++ leBytes 8 c.slot.toNat

/-- The challenge of a transaction. -/
def challenge (c : ChallengeInput) : Octets 32 :=
  Sha256.digest c.preimage

end ChallengeInput

end Cosigner
