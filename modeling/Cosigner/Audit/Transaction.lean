import Cosigner.Audit.Route
import Cosigner.Audit.Verify

/-!
# Verifying a Transaction

A transaction is verified in three steps. It is decompiled, which resolves its
lookup tables. It is routed, which yields its obligations. And the signers of
every obligation are verified, for which the responses are dealt out: one to
each passkey, in the order of the obligations and of their signers.

## Main definitions

* `Auditor`: What a transaction is verified with.
* `Auditor.decompile`: The instructions of a transaction.
* `Auditor.verifyTransaction`: Verifies a transaction.
-/

namespace Cosigner

/-- What a transaction is verified with. -/
structure Auditor where
  /-- What can be read. -/
  ledger : Ledger
  /-- What signatures are checked with. -/
  verifier : Verifier

/-- An obligation whose signers were all verified. -/
structure VerifiedObligation where
  /-- The settings address of the wallet, if the instruction acts on one. -/
  settings : Option Address
  /-- The signers. -/
  signers : List VerifiedSigner
  /-- What they authorized. -/
  instructions : List Instruction
  deriving DecidableEq

/-- A transaction's own message has to be understood like an instruction. -/
def understood {α : Type} (outcome : Except TransactionFault α) : Except Refusal α :=
  outcome.mapError fun fault => .malformedInstruction (.transaction fault)

/-- The instructions of a transaction. -/
def TransactionMessage.decompile (accounts : AccountStore) (m : TransactionMessage) :
    Query (List Instruction) := do
  let wrapped ← .ofExcept (understood m.wrap)
  let tables ← resolveTables accounts (wrapped.lookups.map (·.table))
  .ofExcept ((wrapped.decompile tables).mapError .badMessage)

namespace Auditor

/-- The obligations of a transaction. -/
def obligations (a : Auditor) (m : TransactionMessage) : Query (List Obligation) := do
  let feePayer ← .ofExcept (understood m.feePayer)
  let ixs ← m.decompile a.ledger.accounts
  route a.verifier.program a.ledger ixs feePayer

/-- An obligation with the outcome of verifying its signers. -/
def settle (o : Obligation) (signers : Query (List VerifiedSigner)) : Query VerifiedObligation := do
  return ⟨o.settings, ← signers, o.instructions⟩

/-- Verifies the signers of obligations one after another, all of them. Each
    takes as many responses as it has passkeys. -/
def verifyEach (a : Auditor) : ClientCache → List Obligation → List TimedResponse →
    List (Query VerifiedObligation) × ClientCache
  | cache, [], _ => ([], cache)
  | cache, o :: rest, responses =>
    let count := o.passkeyCount
    let (own, between) := a.verifier.verify cache o.settings o.signers (responses.take count)
    let (others, after) := a.verifyEach between rest (responses.drop count)
    (settle o own :: others, after)

/-- Verifies the signers of all obligations. -/
def verifyObligations (a : Auditor) (cache : ClientCache) (os : List Obligation)
    (responses : List TimedResponse) : Query (List VerifiedObligation) × ClientCache :=
  let expected := Signer.passkeyCount (os.flatMap (·.signers))
  if expected ≠ responses.length then
    (.refuse (.responseCount expected responses.length), cache)
  else
    let (queries, after) := a.verifyEach cache os responses
    (Query.forAll queries id, after)

/-- Verifies a transaction: what was authorized, by whom, and the cache after
    it. -/
def verifyTransaction (a : Auditor) (cache : ClientCache) (m : TransactionMessage)
    (responses : List TimedResponse) : Query (List VerifiedObligation) × ClientCache :=
  let routed := a.obligations m
  match routed.result with
  | .error refusal => (⟨.error refusal, routed.reads⟩, cache)
  | .ok os =>
    let (verified, after) := a.verifyObligations cache os responses
    (⟨verified.result, routed.reads ++ verified.reads⟩, after)

end Auditor

end Cosigner
