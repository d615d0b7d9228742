import Cosigner.Client.Document
import Cosigner.Ledger.Query

/-!
# The Cache of Client Identities

The key of a client is looked up by the client's origin. A key that has been
fetched is kept with the time of fetching and reused for a while. Nothing is
kept of a fetch that fails or that brings no key, and what was kept before stays.

An entry is as old as the clock says, and of age zero if the clock has gone
back. It is reused while its age is below the lifetime, so a lifetime of zero
turns the cache off.

## Main definitions

* `ClientIdentity`: What is kept of a client.
* `ClientCache`: The entries by origin.
* `ClientCache.lookUp`: Answers from the cache or fetches.
* `ClientCache.invalidate`: Forgets an origin.
-/

namespace Cosigner

/-- What is kept of a client. -/
structure ClientIdentity where
  /-- The key that the client signs with, in base64url. -/
  key : String
  /-- The keys of devices that it trusts. -/
  trustedDevices : Option (List String)
  /-- When this was fetched, in milliseconds of Unix time. -/
  fetchedAt : UInt64
  deriving DecidableEq

namespace ClientIdentity

/-- The age of an entry, in milliseconds. -/
def age (c : ClientIdentity) (now : UInt64) : Nat :=
  now.toNat - c.fetchedAt.toNat

/-- Whether an entry may be reused. -/
def fresh (c : ClientIdentity) (lifetime now : UInt64) : Bool :=
  c.age now < lifetime.toNat

end ClientIdentity

/-- How documents are fetched: the document of an origin, or the reason why
    there is none. -/
abbrev Fetcher := String → Except String ClientDocument

/-- The entries by origin; an origin has at most one. -/
structure ClientCache where
  /-- The entries. -/
  entries : List (String × ClientIdentity)
  deriving DecidableEq

namespace ClientCache

/-- A cache without entries. -/
def empty : ClientCache := ⟨[]⟩

/-- The entry of an origin. -/
def find? (c : ClientCache) (origin : String) : Option ClientIdentity :=
  c.entries.lookup origin

/-- Forgets an origin. -/
def invalidate (c : ClientCache) (origin : String) : ClientCache :=
  ⟨c.entries.filter (·.1 ≠ origin)⟩

/-- Replaces the entry of an origin. -/
def insert (c : ClientCache) (origin : String) (entry : ClientIdentity) : ClientCache :=
  ⟨(origin, entry) :: (c.invalidate origin).entries⟩

/-- The entry of an origin, if it may be reused. -/
def fresh? (c : ClientCache) (lifetime now : UInt64) (origin : String) :
    Option ClientIdentity :=
  (c.find? origin).filter (·.fresh lifetime now)

/-- The identity that a fetch brings, with the time of its end. -/
def identityOf (origin : String) (stored : UInt64) :
    Except String ClientDocument → Except Refusal ClientIdentity
  | .error reason => .error (.client (.unreachable origin reason))
  | .ok ⟨none, _⟩ => .error (.client (.keyless origin))
  | .ok ⟨some key, trustedDevices⟩ => .ok ⟨key, trustedDevices, stored⟩

/-- Answers from the cache or fetches. `now` is the time before the fetch and
    `stored` the time after it. -/
def lookUp (c : ClientCache) (lifetime : UInt64) (fetch : Fetcher) (now stored : UInt64)
    (origin : String) : Query ClientIdentity × ClientCache :=
  match c.fresh? lifetime now origin with
  | some entry => (pure entry, c)
  | none =>
    match identityOf origin stored (fetch origin) with
    | .ok entry => (.ask (.document origin) (.ok entry), c.insert origin entry)
    | .error r => (.ask (.document origin) (.error r), c)

end ClientCache

end Cosigner
