import Cosigner.Config
import Cosigner.Message.Native
import Cosigner.Passkey.Assertion
import Cosigner.Passkey.SignedMessage
import Cosigner.Wallet.Request
import Cosigner.Wallet.Sync

/-!
# Refusals

The co-signer signs or it refuses, and a refusal says why. Every cause is a
constructor with the values that decide it; what it is called and how it is
worded follow from the constructor.

Refusals fall into six kinds. A malformed transaction stays malformed, but a
missing account may appear, a proof may become available and a node may answer
again, so callers tell the kinds apart. The authorization of a passkey is
checked in five layers, and a refusal by one of them names it.

## Main definitions

* `Refusal`: Why the co-signer does not sign.
* `Refusal.kind`, `Refusal.layer?`: The two classifications.
* `Refusal.name`, `Refusal.message`: The name in reports and the wording.
-/

namespace Cosigner

/-- Why an instruction cannot be understood. -/
inductive MalformedInstruction where
  /-- The instruction at a position carries signatures in a bad form. -/
  | signatures (position : Nat) (fault : VerifyFault)
  /-- Signatures are too many or too long for the offsets of an instruction. -/
  | signaturesTooLarge
  /-- A message that is executed at once does not decompile. -/
  | sync (fault : SyncError)
  /-- An account is missing; `what` says which. -/
  | missingAccount (what : String) (index : Nat)
  /-- The account of a lookup table holds none. -/
  | badTable (table : Address) (fault : String)
  /-- The message of the transaction is refused. -/
  | transaction (fault : TransactionFault)
  deriving DecidableEq

/-- Wording of the cause. -/
def MalformedInstruction.message : MalformedInstruction → String
  | .signatures position fault =>
    s!"secp256r1 verify instruction {position}: {fault.message}"
  | .signaturesTooLarge => "secp256r1 verify instruction exceeds u16 offsets"
  | .sync fault => fault.message
  | .missingAccount what index => s!"missing {what} account at index {index}"
  | .badTable table fault =>
    s!"lookup table {Address.toText table} is not decodable: {fault}"
  | .transaction fault => s!"transaction message: {fault.message}"

/-- Why the challenge of an assertion is not the right one. -/
inductive ChallengeFault where
  /-- The browser did something else than asking for an assertion. -/
  | wrongType (type : String)
  /-- The response is for another slot than the instruction. -/
  | wrongSlot (claimed verified : UInt64)
  /-- The challenge is not base64url. -/
  | encoding (fault : Base64.Fault)
  /-- The challenge is another one than the request's. -/
  | mismatch
  deriving DecidableEq, Repr

/-- Wording of the fault. -/
def ChallengeFault.message : ChallengeFault → String
  | .wrongType type => s!"client data type is {type}"
  | .wrongSlot claimed verified =>
    s!"slot {claimed.toNat} does not match the verified slot {verified.toNat}"
  | .encoding fault =>
    s!"challenge is not base64url: {(TokenError.encoding (.base64 fault)).message}"
  | .mismatch => "challenge does not match the request"

/-- Why an assertion is not the one that the transaction carries. -/
inductive MessageHashFault where
  /-- The passkey signed another message. -/
  | mismatch
  /-- No message of the passkey is known. -/
  | unknown
  deriving DecidableEq, Repr

/-- Wording of the fault. -/
def MessageHashFault.message : MessageHashFault → String
  | .mismatch => "assertion does not hash to the verified message"
  | .unknown => "no verified message for passkey"

/-- Why the signature of a party does not count. -/
inductive ApprovalFault where
  /-- There is no message hash that could have been signed. -/
  | nothingSigned
  /-- The party's key is refused. -/
  | key (fault : TokenError)
  /-- The party's token is refused. -/
  | token (fault : TokenError)
  deriving DecidableEq, Repr

/-- Wording of the fault. -/
def ApprovalFault.message : ApprovalFault → String
  | .nothingSigned => "no message hash"
  | .key fault => s!"jwk: {fault.message}"
  | .token fault => fault.message

/-- Why the approval of a client does not count. -/
inductive ClientFault where
  /-- The client's document cannot be fetched. -/
  | unreachable (origin reason : String)
  /-- The client's document holds no key. -/
  | keyless (origin : String)
  /-- The client's signature does not count. -/
  | approval (fault : ApprovalFault)
  deriving DecidableEq, Repr

/-- Wording of the fault. -/
def ClientFault.message : ClientFault → String
  | .unreachable origin reason =>
    s!"failed to fetch well-known document of {origin}: {reason}"
  | .keyless origin => s!"well-known document of {origin} has no jwk"
  | .approval fault => fault.message

/-- Why the co-signer does not sign. -/
inductive Refusal where
  /-- A message does not compile, decode or decompile. -/
  | badMessage (error : MessageError)
  /-- Data of the wallet program does not decode. -/
  | badData (error : LayoutError)
  /-- An instruction cannot be understood. -/
  | malformedInstruction (cause : MalformedInstruction)
  /-- An authorization response cannot be decoded. -/
  | malformedResponse (fault : ResponseFault)
  /-- An instruction calls a program that is not listed. -/
  | unlistedProgram (program : Address)
  /-- An instruction asks the wallet program for something not co-signed. -/
  | unroutedRequest (what : Unrouted)
  /-- An instruction refers to a signed message that is not there. -/
  | missingSignedMessage (index : UInt8) (available : Nat)
  /-- A buffered message does not have the digest that is declared for it. -/
  | bufferHash
  /-- The challenge layer. -/
  | challenge (fault : ChallengeFault)
  /-- The message hash layer. -/
  | messageHash (fault : MessageHashFault)
  /-- The device layer. -/
  | device (fault : ApprovalFault)
  /-- The client layer. -/
  | client (fault : ClientFault)
  /-- The auth provider layer. -/
  | authProvider (fault : ApprovalFault)
  /-- There is not one response for each passkey. -/
  | responseCount (expected actual : Nat)
  /-- A request has run out. -/
  | expired (validTill now : UInt64)
  /-- A request asks for a message and not for a transaction. -/
  | notTransaction
  /-- A request that sends the transaction lacks the auth provider. -/
  | missingAuthProvider
  /-- A wallet has no settings. -/
  | missingSettings (index : WalletIndex)
  /-- A lookup table has no account. -/
  | missingTable (table : Address)
  /-- No proof was available after `attempts` requests. -/
  | noProof (attempts : UInt32) (reason : String)
  /-- A node did not answer. -/
  | connection (reason : String)
  /-- The configuration has no meaning. -/
  | config (fault : ConfigFault)
  deriving DecidableEq

/-- The kinds of refusals. -/
inductive RefusalKind where
  /-- The transaction is malformed and stays so. -/
  | malformedInput
  /-- A layer of a passkey's authorization refuses. -/
  | signatureInvalid
  /-- Something is not on chain. -/
  | stateNotFound
  /-- The circumstances are not right. -/
  | precondition
  /-- A service is behind. -/
  | transientInfra
  /-- A node did not answer. -/
  | connection
  deriving DecidableEq, Repr

/-- The layers of a passkey's authorization, in their order. -/
inductive Layer where
  /-- The challenge is the request's. -/
  | challenge
  /-- The assertion is the one that the transaction carries. -/
  | messageHash
  /-- The device signed. -/
  | device
  /-- The client signed. -/
  | client
  /-- The auth provider signed, if there is one. -/
  | authProvider
  deriving DecidableEq, Repr

/-- The name of a kind in reports. -/
def RefusalKind.name : RefusalKind → String
  | .malformedInput => "MalformedInput"
  | .signatureInvalid => "SignatureInvalid"
  | .stateNotFound => "StateNotFound"
  | .precondition => "Precondition"
  | .transientInfra => "TransientInfra"
  | .connection => "Connection"

/-- The name of a layer in reports. -/
def Layer.name : Layer → String
  | .challenge => "Challenge"
  | .messageHash => "MessageHash"
  | .device => "Device"
  | .client => "Client"
  | .authProvider => "AuthProvider"

namespace Refusal

/-- The name of a refusal in reports. -/
def name : Refusal → String
  | .badMessage _ => "Message"
  | .badData _ => "Interface"
  | .malformedInstruction _ => "MalformedInstruction"
  | .malformedResponse _ => "MalformedAuthResponse"
  | .unlistedProgram _ => "UnauthorizedProgram"
  | .unroutedRequest _ => "UnknownInstruction"
  | .missingSignedMessage _ _ => "SignedMessageNotFound"
  | .bufferHash => "BufferHashMismatch"
  | .challenge _ => "InvalidChallenge"
  | .messageHash _ => "InvalidMessageHash"
  | .device _ => "DeviceSignatureInvalid"
  | .client _ => "ClientSignatureInvalid"
  | .authProvider _ => "AuthProviderSignatureInvalid"
  | .responseCount _ _ => "SignerCountMismatch"
  | .expired _ _ => "RequestExpired"
  | .notTransaction => "UnexpectedPayloadType"
  | .missingAuthProvider => "MissingAuthProvider"
  | .missingSettings _ => "SettingsNotFound"
  | .missingTable _ => "LookupTableNotFound"
  | .noProof _ _ => "ValidityProofUnavailable"
  | .connection _ => "Connection"
  | .config _ => "Config"

/-- The kind of a refusal. -/
def kind : Refusal → RefusalKind
  | .badMessage _ | .badData _ | .malformedInstruction _ | .malformedResponse _ | .unlistedProgram _
  | .unroutedRequest _ | .missingSignedMessage _ _ | .bufferHash => .malformedInput
  | .challenge _ | .messageHash _ | .device _ | .client _ | .authProvider _ => .signatureInvalid
  | .missingSettings _ | .missingTable _ => .stateNotFound
  | .responseCount _ _ | .expired _ _ | .notTransaction | .missingAuthProvider
  | .config _ => .precondition
  | .noProof _ _ => .transientInfra
  | .connection _ => .connection

/-- The layer that refuses, if a layer does. -/
def layer? : Refusal → Option Layer
  | .challenge _ => some .challenge
  | .messageHash _ => some .messageHash
  | .device _ => some .device
  | .client _ => some .client
  | .authProvider _ => some .authProvider
  | _ => none

/-- Wording of a refusal. -/
def message : Refusal → String
  | .badMessage error => s!"Message error: {error.message}"
  | .badData error => s!"Interface error: {error.message}"
  | .malformedInstruction cause => s!"Malformed instruction: {cause.message}"
  | .malformedResponse fault => s!"Malformed authorization response: {fault.message}"
  | .unlistedProgram program =>
    s!"Program {Address.toText program} is not allowed in a co-signed transaction"
  | .unroutedRequest what => s!"Unknown multi-wallet instruction: {what.text}"
  | .missingSignedMessage index available =>
    s!"Signed message {index.toNat} not found, transaction carries {available}"
  | .bufferHash => "Transaction buffer hash mismatch"
  | .challenge fault => s!"Invalid WebAuthn challenge: {fault.message}"
  | .messageHash fault => s!"Invalid WebAuthn message hash: {fault.message}"
  | .device fault => s!"Device signature invalid: {fault.message}"
  | .client fault => s!"Client signature invalid: {fault.message}"
  | .authProvider fault => s!"Auth provider signature invalid: {fault.message}"
  | .responseCount expected actual =>
    s!"Expected {expected} authorization responses, got {actual}"
  | .expired validTill now => s!"Request expired at {validTill.toNat}, now {now.toNat}"
  | .notTransaction => "Expected a transaction request, got a message request"
  | .missingAuthProvider => "Auth provider is required when the request sends the transaction"
  | .missingSettings index => s!"Settings for wallet {index.toNat} not found"
  | .missingTable table => s!"Address lookup table not found: {Address.toText table}"
  | .noProof attempts reason =>
    s!"Validity proof unavailable after {attempts.toNat} attempts: {reason}"
  | .connection reason => s!"Connection error: {reason}"
  | .config fault => s!"Configuration error: {fault.message}"

end Refusal

end Cosigner
