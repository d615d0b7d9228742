import Cosigner.Json.Record

/-!
# Client Documents

A client publishes a document under its origin that says which key it signs
with, and which devices it trusts. Either may be left out.

## Main definitions

* `ClientDocument`: The contents of a document.
* `ClientDocument.read?`: Reads a document from JSON text.
-/

namespace Cosigner

/-- What a client says about itself. -/
structure ClientDocument where
  /-- The key that it signs with, in base64url. -/
  key : Option String
  /-- The keys of devices that it trusts. -/
  trustedDevices : Option (List String)
  deriving DecidableEq

namespace ClientDocument

/-- The members of a document, in order. -/
def names : List String := ["jwk", "trustedDevices"]

/-- Reads a document from JSON text. -/
def read? (text : Bytes) : Option ClientDocument := do
  let r ← Json.read? text >>= Json.record? names
  return ⟨← r.nullable? "jwk" Json.text?,
    ← r.nullable? "trustedDevices" (Json.list? Json.text?)⟩

end ClientDocument

end Cosigner
