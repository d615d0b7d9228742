import Cosigner.Passkey.WebKey

/-!
# Signed Tokens

A token in compact form has three parts with dots between them: a header that
names the algorithm, the payload and the signature, each in base64url. The
signature covers the first two parts as they are written.

The bytes that must have been signed are known beforehand, so a token may leave
its payload out; then the known bytes take its place. A payload that is there
has to be spelled exactly as those bytes are.

## Main definitions

* `Token.parts`: The parts between dots.
* `Token.verify`: Checks a token for a key and the bytes that must be signed.
-/

namespace Cosigner

namespace Token

/-- The dot between two parts. -/
def dot : UInt8 := 46

/-- The parts between dots. -/
def parts : Bytes → List Bytes
  | [] => [[]]
  | b :: rest =>
    if b = dot then [] :: parts rest
    else
      match parts rest with
      | part :: others => (b :: part) :: others
      | [] => [[b]]

/-- The algorithm that the header of a token names. -/
def headerAlgorithm (header : Bytes) : Except TokenError String := do
  readPart ["alg"] (fun r => r.required? "alg" Json.text?) (← decodePart header)

/-- Checks the parts of a token for a key and the bytes that must be signed. -/
def verifyParts (schemes : SignatureSchemes) (key : WebKey) (expected : Bytes)
    (header payload signature : Bytes) : Except TokenError Unit := do
  let algorithm ← headerAlgorithm header
  if algorithm ≠ key.algorithm.name then
    throw (.algorithmMismatch key.algorithm algorithm)
  let spelled := Base64.urlSymbols expected
  if payload ≠ [] ∧ payload ≠ spelled then throw .payloadMismatch
  let signature ← decodePart signature
  if schemes.accepts key (header ++ dot :: spelled) signature then return ()
  else throw .badSignature

/-- Checks a token, given by its bytes. -/
def verifyBytes (schemes : SignatureSchemes) (token : Bytes) (key : WebKey) (expected : Bytes) :
    Except TokenError Unit :=
  match parts token with
  | [header, payload, signature] => verifyParts schemes key expected header payload signature
  | _ => .error (.encoding .segments)

/-- Checks a token for a key and the bytes that must be signed. -/
def verify (schemes : SignatureSchemes) (token : String) (key : WebKey) (expected : Bytes) :
    Except TokenError Unit :=
  verifyBytes schemes (Utf8.encode token) key expected

end Token

end Cosigner
