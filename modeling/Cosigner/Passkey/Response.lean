import Cosigner.Json.Printer
import Cosigner.Json.Record

/-!
# Authorization Responses

Everything that a signer's client collected while its user approved something:
the WebAuthn assertion of the passkey, the signatures of the client, of the
device and possibly of an auth provider, what was asked for, and the slot whose
hash was shown. It comes as JSON and can be written back.

What was asked for is tagged: a transaction or a message. A value with a tag is
taken in as a whole before its members are looked at, so all of it has to be
readable, even members that nobody asks for.

## Main definitions

* `AuthorizationResponse`: A response.
* `AuthorizationResponse.read?`: Reads a response from JSON text.
* `AuthorizationResponse.print`: Writes it in compact form.
-/

namespace Cosigner

/-- A WebAuthn assertion, every field in base64url. -/
structure WebAuthnAssertion where
  /-- What the browser says the user saw. -/
  clientDataJson : String
  /-- What the authenticator says about itself. -/
  authenticatorData : String
  /-- The signature, which is checked on chain and not here. -/
  signature : Option String
  deriving DecidableEq

/-- The approval of the client that the user worked with. -/
structure ClientAuthorization where
  /-- Where the client lives. -/
  origin : String
  /-- The client's signed token. -/
  token : String
  deriving DecidableEq

/-- The approval of a party that sends its key along. -/
structure KeyAuthorization where
  /-- The key, in base64url. -/
  key : String
  /-- The party's signed token. -/
  token : String
  deriving DecidableEq

/-- What the user was asked to approve. -/
inductive RequestData where
  /-- A transaction, in base64; `send` says that it will be sent as well. -/
  | transaction (payload : String) (send : Bool)
  /-- A message. -/
  | message (payload : String)
  deriving DecidableEq

/-- A request for approval. -/
structure StartRequest where
  /-- Until when it holds, in milliseconds of Unix time. -/
  validTill : UInt64
  /-- What it asks for. -/
  data : RequestData
  deriving DecidableEq

/-- Everything collected while a user approved something. -/
structure AuthorizationResponse where
  /-- The assertion of the passkey. -/
  assertion : WebAuthnAssertion
  /-- The approval of the client. -/
  client : ClientAuthorization
  /-- The approval of the device. -/
  device : KeyAuthorization
  /-- The approval of an auth provider. -/
  authProvider : Option KeyAuthorization
  /-- The request. -/
  request : StartRequest
  /-- The slot whose hash was shown. -/
  slot : UInt64
  /-- The hash of the slot, in base 58. -/
  slotHash : String
  /-- A value used once. -/
  nonce : String
  deriving DecidableEq

namespace WebAuthnAssertion

/-- Reads an assertion. -/
def ofJson? (j : Json) : Option WebAuthnAssertion := do
  let r ← Json.record? ["clientDataJSON", "authenticatorData", "signature"] j
  return ⟨← r.required? "clientDataJSON" Json.text?, ← r.required? "authenticatorData" Json.text?,
    ← r.defaulted? "signature" none (Json.option? Json.text?)⟩

/-- Writes an assertion. -/
def toJson (a : WebAuthnAssertion) : Json :=
  .ofFields [("clientDataJSON", .ofText a.clientDataJson),
    ("authenticatorData", .ofText a.authenticatorData),
    ("signature", .ofOption .ofText a.signature)]

end WebAuthnAssertion

namespace ClientAuthorization

/-- Reads the approval of a client. -/
def ofJson? (j : Json) : Option ClientAuthorization := do
  let r ← Json.record? ["origin", "jws"] j
  return ⟨← r.required? "origin" Json.text?, ← r.required? "jws" Json.text?⟩

/-- Writes the approval of a client. -/
def toJson (a : ClientAuthorization) : Json :=
  .ofFields [("origin", .ofText a.origin), ("jws", .ofText a.token)]

end ClientAuthorization

namespace KeyAuthorization

/-- Reads an approval with a key. -/
def ofJson? (j : Json) : Option KeyAuthorization := do
  let r ← Json.record? ["jwk", "jws"] j
  return ⟨← r.required? "jwk" Json.text?, ← r.required? "jws" Json.text?⟩

/-- Writes an approval with a key. -/
def toJson (a : KeyAuthorization) : Json :=
  .ofFields [("jwk", .ofText a.key), ("jws", .ofText a.token)]

end KeyAuthorization

namespace RequestData

/-- How deeply containers may be nested in a tagged value, given that it stands
    inside two others and that 127 may be nested in all. -/
def levels : Nat := 125

/-- The tag of a value, and the value without it: the members of other names, or
    the items after the first. -/
def untag? : Json → Option (String × Json)
  | .object members => do
    match members.partition (fun m => Json.textOf? m.1 = some "type") with
    | ([(_, tag)], others) => return (← tag.text?, .object others)
    | _ => none
  | .array (tag :: others) => do
    return (← tag.text?, .array others)
  | _ => none

/-- Reads what a request asks for. -/
def ofJson? (j : Json) : Option RequestData := do
  if !j.readable levels then none
  else
    let (tag, body) ← untag? j
    if tag = "transaction" then
      let r ← Json.record? ["payload", "sendTx"] body
      return .transaction (← r.required? "payload" Json.text?)
        (← r.defaulted? "sendTx" false Json.bool?)
    else if tag = "message" then
      let r ← Json.record? ["payload"] body
      return .message (← r.required? "payload" Json.text?)
    else none

/-- Writes what a request asks for. -/
def toJson : RequestData → Json
  | .transaction payload send =>
    .ofFields [("type", .ofText "transaction"), ("payload", .ofText payload),
      ("sendTx", .bool send)]
  | .message payload =>
    .ofFields [("type", .ofText "message"), ("payload", .ofText payload)]

end RequestData

namespace StartRequest

/-- Reads a request. -/
def ofJson? (j : Json) : Option StartRequest := do
  let r ← Json.record? ["validTill", "data"] j
  return ⟨← r.required? "validTill" Json.u64?, ← r.required? "data" RequestData.ofJson?⟩

/-- Writes a request. -/
def toJson (s : StartRequest) : Json :=
  .ofFields [("validTill", .ofNat s.validTill.toNat), ("data", s.data.toJson)]

end StartRequest

namespace AuthorizationResponse

/-- The members of a response, in order. -/
def names : List String :=
  ["authResponse", "client", "device", "authProvider", "startRequest", "slotNumber", "slotHash",
    "nonce"]

/-- Reads a response from a JSON value. -/
def ofJson? (j : Json) : Option AuthorizationResponse := do
  let r ← Json.record? names j
  return {
    assertion := ← r.required? "authResponse" WebAuthnAssertion.ofJson?
    client := ← r.required? "client" ClientAuthorization.ofJson?
    device := ← r.required? "device" KeyAuthorization.ofJson?
    authProvider := ← r.defaulted? "authProvider" none (Json.option? KeyAuthorization.ofJson?)
    request := ← r.required? "startRequest" StartRequest.ofJson?
    slot := ← r.required? "slotNumber" Json.u64?
    slotHash := ← r.required? "slotHash" Json.text?
    nonce := ← r.required? "nonce" Json.text? }

/-- Writes a response as a JSON value. -/
def toJson (a : AuthorizationResponse) : Json :=
  .ofFields [("authResponse", a.assertion.toJson), ("client", a.client.toJson),
    ("device", a.device.toJson), ("authProvider", .ofOption KeyAuthorization.toJson a.authProvider),
    ("startRequest", a.request.toJson), ("slotNumber", .ofNat a.slot.toNat),
    ("slotHash", .ofText a.slotHash), ("nonce", .ofText a.nonce)]

/-- Reads a response from JSON text. -/
def read? (text : Bytes) : Option AuthorizationResponse :=
  Json.read? text >>= ofJson?

/-- Writes a response as compact JSON text. -/
def print (a : AuthorizationResponse) : Bytes :=
  a.toJson.print

end AuthorizationResponse

end Cosigner
