import Cosigner.Client.Document
import Cosigner.Client.WebAddress

/-!
# Requests for Client Documents

The document of a client lies at a fixed path under the client's origin. It is
fetched from there, or through a proxy that is told the origin. The answer
counts if its status is no error, it has a body, and the body is a document.

## Main definitions

* `documentAddress?`: Where the document of an origin is fetched.
* `documentOfAnswer?`: The document in an answer.
-/

namespace Cosigner

/-- Where a document lies under its origin. -/
def documentPath : String := "/.well-known/revibase.json"

/-- An origin without slashes at its end. -/
def trimSlashes (origin : String) : String :=
  String.ofList (origin.toList.reverse.dropWhile (· = '/')).reverse

/-- Where the document of an origin is fetched, if that is an address at all. -/
def documentAddress? (proxy : Option String) (origin : String) : Option WebAddress :=
  match proxy with
  | none => WebAddress.parse? (trimSlashes origin ++ documentPath)
  | some p => (WebAddress.parse? p).map (·.withParameter "origin" origin)

/-- Whether answers of a status have a body. -/
def hasBody (status : Nat) : Bool :=
  200 ≤ status && status ≠ 204 && status ≠ 304

/-- The document in an answer. -/
def documentOfAnswer? (status : Nat) (body : Bytes) : Option ClientDocument :=
  if hasBody status && status < 400 then ClientDocument.read? body else none

end Cosigner
