import Cosigner.Crypto.Ed25519
import Cosigner.Crypto.P256
import Cosigner.Json.Record
import Cosigner.Text.Base64
import Cosigner.Text.Quoted

/-!
# Web Keys

A public key comes as base64url text around a JSON record. Two kinds are known:
points of P-256, which sign with ES256, and Ed25519 keys, which sign with EdDSA.
Coordinates are base64url texts of 32 bytes each. A point has to be one of the
curve, but any 32 bytes pass as an Ed25519 key until a signature is checked.

How a signature is checked is a parameter of everything that checks one:
`SignatureSchemes` holds the two functions, and `SignatureSchemes.standard` the
real ones.

## Main definitions

* `WebKey`: A public key.
* `WebKey.ofText`: Reads a key.
* `SignatureSchemes`: How signatures are checked.
* `TokenError`: Why a key or a token is refused.
-/

namespace Cosigner

/-- The signature algorithms. -/
inductive Algorithm where
  /-- P-256 with SHA-256. -/
  | es256
  /-- Ed25519. -/
  | edDsa
  deriving DecidableEq, Repr

/-- The name of an algorithm in the header of a token. -/
def Algorithm.name : Algorithm → String
  | .es256 => "ES256"
  | .edDsa => "EdDSA"

/-- Why an encoded part of a key or a token cannot be read. -/
inductive EncodingFault where
  /-- The part is not base64url. -/
  | base64 (fault : Base64.Fault)
  /-- The part holds no JSON record of the right form. -/
  | json
  /-- A token does not have three parts. -/
  | segments
  deriving DecidableEq, Repr

/-- Wording of an encoding fault. -/
def EncodingFault.message : EncodingFault → String
  | .base64 fault => fault.message
  | .json => Json.complaint
  | .segments => "expected three segments"

/-- Why a key is not one that can be used. -/
inductive KeyFault where
  /-- A coordinate is absent. -/
  | missing (coordinate : String)
  /-- A coordinate has another length. -/
  | wrongSize (coordinate : String)
  /-- The coordinates name no point of the curve. -/
  | notOnCurve
  /-- Keys of this type and curve are not known. -/
  | unknownType (type : String) (curve : Option String)
  deriving DecidableEq, Repr

/-- Wording of a key fault. -/
def KeyFault.message : KeyFault → String
  | .missing coordinate => s!"missing {coordinate}"
  | .wrongSize coordinate => s!"{coordinate} is not 32 bytes"
  | .notOnCurve => "signature error"
  | .unknownType type curve => s!"{type}/{Quoted.option curve}"

/-- Why a key or a token is refused. -/
inductive TokenError where
  /-- Some part cannot be read. -/
  | encoding (fault : EncodingFault)
  /-- The key cannot be used. -/
  | unsupportedKey (fault : KeyFault)
  /-- The token was made with another algorithm than the key's. -/
  | algorithmMismatch (expected : Algorithm) (actual : String)
  /-- The token carries other bytes than the expected ones. -/
  | payloadMismatch
  /-- The signature is not the key's. -/
  | badSignature
  deriving DecidableEq, Repr

/-- The name of a token error in reports. -/
def TokenError.name : TokenError → String
  | .encoding _ => "Encoding"
  | .unsupportedKey _ => "UnsupportedKey"
  | .algorithmMismatch _ _ => "AlgorithmMismatch"
  | .payloadMismatch => "PayloadMismatch"
  | .badSignature => "BadSignature"

/-- Wording of a token error. -/
def TokenError.message : TokenError → String
  | .encoding fault => s!"invalid encoding: {fault.message}"
  | .unsupportedKey fault => s!"unsupported key: {fault.message}"
  | .algorithmMismatch expected actual =>
    s!"algorithm {actual} does not match key algorithm {expected.name}"
  | .payloadMismatch => "payload does not match the expected bytes"
  | .badSignature => "signature verification failed"

/-- Base64url text as bytes, with a token error for what is none. -/
def decodePart (text : Bytes) : Except TokenError Bytes :=
  match Base64.decodeUrlBytes text with
  | .ok bs => .ok bs
  | .error fault => .error (.encoding (.base64 fault))

/-- A JSON record in bytes, with a token error for what is none. -/
def readPart {α : Type} (names : List String) (f : Json.Record → Option α) (bs : Bytes) :
    Except TokenError α :=
  match Json.read? bs >>= Json.record? names >>= f with
  | some a => .ok a
  | none => .error (.encoding .json)

/-- A public key. -/
inductive WebKey where
  /-- A point of P-256. -/
  | es256 (key : P256.PublicKey)
  /-- An Ed25519 key. -/
  | edDsa (key : Octets 32)
  deriving DecidableEq

/-- A web key as it is written. -/
structure WrittenKey where
  /-- The type of the key. -/
  type : String
  /-- The curve. -/
  curve : Option String
  /-- The first coordinate. -/
  x : Option String
  /-- The second coordinate. -/
  y : Option String

/-- The members of a written key. -/
def WrittenKey.ofRecord? (r : Json.Record) : Option WrittenKey := do
  return ⟨← r.required? "kty" Json.text?, ← r.nullable? "crv" Json.text?,
    ← r.nullable? "x" Json.text?, ← r.nullable? "y" Json.text?⟩

namespace WebKey

/-- The algorithm that a key signs with. -/
def algorithm : WebKey → Algorithm
  | .es256 _ => .es256
  | .edDsa _ => .edDsa

/-- A coordinate of a written key. -/
def coordinate (name : String) (value : Option String) : Except TokenError (Octets 32) := do
  match value with
  | none => throw (.unsupportedKey (.missing name))
  | some text =>
    match Octets.ofBytes? 32 (← decodePart (Utf8.encode text)) with
    | some o => return o
    | none => throw (.unsupportedKey (.wrongSize name))

/-- The key that a written key stands for. -/
def ofWritten (w : WrittenKey) : Except TokenError WebKey := do
  if w.type = "EC" ∧ w.curve = some "P-256" then
    let x ← coordinate "x" w.x
    let y ← coordinate "y" w.y
    match P256.PublicKey.ofCoordinates? x y with
    | some key => return .es256 key
    | none => throw (.unsupportedKey .notOnCurve)
  else if w.type = "OKP" ∧ w.curve = some "Ed25519" then
    return .edDsa (← coordinate "x" w.x)
  else throw (.unsupportedKey (.unknownType w.type w.curve))

/-- Reads a key from base64url text around a JSON record. -/
def ofText (text : String) : Except TokenError WebKey := do
  let bs ← decodePart (Utf8.encode text)
  ofWritten (← readPart ["kty", "crv", "x", "y"] WrittenKey.ofRecord? bs)

end WebKey

/-- How signatures are checked: the key, the message, the signature. -/
structure SignatureSchemes where
  /-- P-256 with SHA-256. -/
  es256 : P256.PublicKey → Bytes → Octets 64 → Bool
  /-- Ed25519. -/
  edDsa : Octets 32 → Bytes → Octets 64 → Bool

namespace SignatureSchemes

/-- The real schemes. -/
def standard : SignatureSchemes := ⟨P256.verify, Ed25519.verify⟩

/-- Whether bytes are a key's signature of a message. -/
def accepts (schemes : SignatureSchemes) (key : WebKey) (message signature : Bytes) : Bool :=
  match Octets.ofBytes? 64 signature with
  | none => false
  | some s =>
    match key with
    | .es256 k => schemes.es256 k message s
    | .edDsa k => schemes.edDsa k message s

end SignatureSchemes

end Cosigner
