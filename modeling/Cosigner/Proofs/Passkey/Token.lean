import Cosigner.Audit.Approval
import Cosigner.Proofs.Outcome

/-!
# What a Token Vouches For

A token is checked in five steps, each of which may refuse: the parts, the
algorithm, the payload, the spelling of the signature, the signature. `Covers`
says in one statement what all of them together accept. There the payload has no
say in what is signed: whether it is there or left out, the signature is one of
the header and of the bytes that were known beforehand.

`Vouched` adds the key, which comes as text like the token. This is the form in
which every party of an approval appears.

## Main definitions

* `Token.Covers`: A token with a key's signature of given bytes.
* `Vouched`: The same for a key that is given as text.

## Theorems

* `Token.verify_eq_ok`: A token is accepted exactly if it covers the bytes.
* `Approval.checkToken_eq_ok`: A party is accepted exactly if it vouches.
-/

namespace Cosigner

namespace Token

/-- A token with a key's signature of given bytes: three parts, a header that
    names the key's algorithm, a payload that is left out or spells the bytes, and
    a signature of the header and the spelled bytes. -/
def Covers (schemes : SignatureSchemes) (key : WebKey) (token signed : Bytes) : Prop :=
  ∃ header payload spelled signature,
    parts token = [header, payload, spelled] ∧
    headerAlgorithm header = .ok key.algorithm.name ∧
    (payload = [] ∨ payload = Base64.urlSymbols signed) ∧
    Base64.decodeUrlBytes spelled = .ok signature ∧
    schemes.accepts key (header ++ dot :: Base64.urlSymbols signed) signature = true

theorem decodePart_eq_ok (text bs : Bytes) :
    decodePart text = .ok bs ↔ Base64.decodeUrlBytes text = .ok bs := by
  unfold decodePart
  cases Base64.decodeUrlBytes text with
  | error fault => simp only [reduceCtorEq]
  | ok found => simp only [Except.ok.injEq]

theorem verifyParts_eq_ok (schemes : SignatureSchemes) (key : WebKey)
    (signed header payload spelled : Bytes) :
    verifyParts schemes key signed header payload spelled = .ok () ↔
      ∃ signature, headerAlgorithm header = .ok key.algorithm.name ∧
        (payload = [] ∨ payload = Base64.urlSymbols signed) ∧
        Base64.decodeUrlBytes spelled = .ok signature ∧
        schemes.accepts key (header ++ dot :: Base64.urlSymbols signed) signature = true := by
  unfold verifyParts
  simp only [Outcome.throw_eq, Outcome.error_bind, Outcome.bind_eq_ok, Outcome.ite_error_eq_ok,
    Outcome.ite_else_error_eq_ok, decodePart_eq_ok]
  constructor
  · intro h
    rcases h with ⟨algorithm, halgorithm, hname, hpayload, signature, hsignature, haccepts, _⟩
    rw [ne_eq, not_not] at hname
    rw [hname] at halgorithm
    refine ⟨signature, halgorithm, ?_, hsignature, haccepts⟩
    by_cases hempty : payload = []
    · exact Or.inl hempty
    · exact Or.inr (not_not.mp fun hc => hpayload ⟨hempty, hc⟩)
  · intro h
    rcases h with ⟨signature, halgorithm, hpayload, hsignature, haccepts⟩
    refine ⟨key.algorithm.name, halgorithm, fun hc => hc rfl, ?_, signature, hsignature,
      haccepts, rfl⟩
    intro h
    rcases h with ⟨hempty, hother⟩
    exact hpayload.elim hempty hother

/-- A token is accepted exactly if it covers the bytes. -/
theorem verify_eq_ok (schemes : SignatureSchemes) (token : String) (key : WebKey)
    (signed : Bytes) :
    verify schemes token key signed = .ok () ↔
      Covers schemes key (Utf8.encode token) signed := by
  unfold verify verifyBytes Covers
  constructor
  · intro h
    split at h
    · rename_i header payload spelled hparts
      rcases (verifyParts_eq_ok _ _ _ _ _ _).mp h with ⟨signature, hrest⟩
      exact ⟨header, payload, spelled, signature, hparts, hrest⟩
    · exact absurd h (by simp only [reduceCtorEq, not_false_eq_true])
  · intro h
    rcases h with ⟨header, payload, spelled, signature, hparts, hrest⟩
    simp only [hparts]
    exact (verifyParts_eq_ok _ _ _ _ _ _).mpr ⟨signature, hrest⟩

end Token

/-- A party whose key, given as text, can be read and whose token covers given
    bytes. -/
def Vouched (schemes : SignatureSchemes) (key token : String) (signed : Bytes) : Prop :=
  ∃ webKey, WebKey.ofText key = .ok webKey ∧
    Token.Covers schemes webKey (Utf8.encode token) signed

/-- A party is accepted exactly if it vouches for bytes that are known. -/
theorem Approval.checkToken_eq_ok (schemes : SignatureSchemes) (key token : String)
    (signed : Option Bytes) :
    Approval.checkToken schemes key token signed = .ok () ↔
      ∃ bytes, signed = some bytes ∧ Vouched schemes key token bytes := by
  unfold Approval.checkToken Vouched
  cases signed with
  | none => simp only [Outcome.throw_eq, reduceCtorEq, false_and, exists_false]
  | some bytes =>
      simp only [Outcome.bind_eq_ok, Outcome.mapError_eq_ok, Token.verify_eq_ok,
        Option.some.injEq, exists_eq_left']

end Cosigner
