import Cosigner.Refusal

/-!
# Queries

What the co-signer has to know is kept elsewhere: accounts on a node, compressed
accounts at an indexer, documents of clients on the web. A query is a
computation that asks for such things. It comes out as a value or a refusal,
and it lists what was read on the way, whatever came out.

Queries are put together in two ways. In sequence, nothing is read after the
first refusal. Side by side, every query runs to its end, and the refusal of the
first that fails, in the order in which they are listed, is the refusal of all.

## Main definitions

* `Read`: Something that is read.
* `Query`: A computation that reads.
* `Query.forAll`: Runs one query for each entry of a list, side by side.
-/

namespace Cosigner

/-- Something that is read. -/
inductive Read where
  /-- An account. -/
  | account (key : Address)
  /-- A compressed account. -/
  | compressed (address : Octets 32)
  /-- A proof that compressed accounts with the given hashes exist. -/
  | proof (hashes : List (Octets 32))
  /-- The document of a client. -/
  | document (origin : String)
  deriving DecidableEq

/-- A computation that reads. -/
structure Query (α : Type) where
  /-- What comes out. -/
  result : Except Refusal α
  /-- What was read, in order. -/
  reads : List Read

namespace Query

variable {α β : Type}

/-- A computation that reads nothing. -/
def ofExcept (result : Except Refusal α) : Query α :=
  ⟨result, []⟩

/-- A refusal. -/
def refuse (r : Refusal) : Query α :=
  ofExcept (.error r)

/-- A single read with its answer. -/
def ask (read : Read) (answer : Except Refusal α) : Query α :=
  ⟨answer, [read]⟩

/-- Goes on with the value that a query comes out with. -/
def andThen (q : Query α) (f : α → Query β) : Query β :=
  match q.result with
  | .ok a => ⟨(f a).result, q.reads ++ (f a).reads⟩
  | .error r => ⟨.error r, q.reads⟩

instance : Monad Query where
  pure a := ofExcept (.ok a)
  bind := andThen

/-- The results of all, or the first refusal among them. -/
def firstRefusal : List (Except Refusal α) → Except Refusal (List α)
  | [] => .ok []
  | r :: rest => do
    let a ← r
    return a :: (← firstRefusal rest)

/-- Runs one query for each entry of a list, side by side. -/
def forAll (xs : List α) (f : α → Query β) : Query (List β) :=
  ⟨firstRefusal (xs.map fun x => (f x).result), xs.flatMap fun x => (f x).reads⟩

end Query

end Cosigner
