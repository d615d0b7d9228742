import Cosigner.Proofs.Passkey.Token
import Cosigner.Proofs.Text.Base64

/-!
# Tokens and Their Payloads

A token may leave its payload out, and then the bytes that must be signed stand in for
it. This is harmless only if it is no way to make a signature count for other bytes. A
token is a text, however, and it is cut into parts before anything is looked at. So two
things have to be known of texts: that the parts are those the sender put together, and
that no two byte strings are spelled alike as a payload.

The first is a matter of dots, and a text is cut at a dot where its bytes are. The second
is what `Base64.oneSpelling` says. With both, a check of a token comes down to one of its
three parts, in which the payload is only compared: it is never what the signature is
checked against. A payload that is there rules out all bytes but those it spells, and it
does so before the signature is decoded.

## Main definitions

* `Token.Compact`: A token and its three parts.
* `Token.Names`: A header that names an algorithm.
* `Token.Signs`: A part that is a key's signature of a text.
* `Token.BoundToPayload`: What a key's tokens say about payloads.

## Theorems

* `Token.parts_eq_cons`: The parts of a byte string.
* `Token.verify_of_compact`: Checking a token is checking its three parts.
* `Token.verify_eq_ok_iff`: Which tokens are accepted, as texts.
* `Token.boundToPayload`: A token is bound to its payload.
-/

namespace Cosigner

/-- A signature that a key's scheme takes for one of a message. -/
def SignatureSchemes.Valid (schemes : SignatureSchemes) (key : WebKey) (message : Bytes)
    (signature : Octets 64) : Prop :=
  match key with
  | .es256 k => schemes.es256 k message signature = true
  | .edDsa k => schemes.edDsa k message signature = true

-- Byte strings of another length are no signatures.
theorem SignatureSchemes.accepts_eq_true (schemes : SignatureSchemes) (key : WebKey)
    (message bs : Bytes) :
    schemes.accepts key message bs = true ↔
      ∃ signature : Octets 64, signature.toBytes = bs ∧ schemes.Valid key message signature := by
  unfold accepts Octets.ofBytes?
  constructor
  · intro h
    by_cases hlength : bs.length = 64
    · rw [dif_pos hlength] at h
      refine ⟨⟨bs, hlength⟩, rfl, ?_⟩
      cases key with
      | es256 k => exact h
      | edDsa k => exact h
    · rw [dif_neg hlength] at h
      exact absurd h Bool.false_ne_true
  · intro h
    rcases h with ⟨signature, rfl, hvalid⟩
    rw [dif_pos signature.length_eq]
    cases key with
    | es256 k => exact hvalid
    | edDsa k => exact hvalid

namespace Token

/-- A text without dots is one part. -/
theorem parts_of_notMem (bs : Bytes) (h : dot ∉ bs) : parts bs = [bs] := by
  induction bs with
  | nil => rfl
  | cons b bs ih =>
      rw [List.mem_cons, not_or] at h
      rw [parts, if_neg (Ne.symm h.1), ih h.2]

/-- A text is parted at its first dot. -/
theorem parts_append (front rest : Bytes) (h : dot ∉ front) :
    parts (front ++ dot :: rest) = front :: parts rest := by
  induction front with
  | nil => rw [List.nil_append, parts, if_pos rfl]
  | cons b front ih =>
      rw [List.mem_cons, not_or] at h
      rw [List.cons_append, parts, if_neg (Ne.symm h.1), ih h.2]

/-- The first part ends with the byte string or at its first dot. -/
theorem parts_eq_cons (bs part : Bytes) (others : List Bytes) :
    parts bs = part :: others ↔
      dot ∉ part ∧ (bs = part ∧ others = [] ∨
        ∃ rest, bs = part ++ dot :: rest ∧ parts rest = others) := by
  constructor
  · intro h
    by_cases hdot : dot ∈ bs
    · rcases List.eq_append_cons_of_mem hdot with ⟨front, rest, rfl, hfront⟩
      rw [parts_append front rest hfront, List.cons.injEq] at h
      rw [← h.1]
      exact ⟨hfront, .inr ⟨rest, rfl, h.2⟩⟩
    · rw [parts_of_notMem bs hdot, List.cons.injEq] at h
      rw [← h.1]
      exact ⟨hdot, .inl ⟨rfl, h.2.symm⟩⟩
  · intro h
    rcases h with ⟨hpart, ⟨rfl, rfl⟩ | ⟨rest, rfl, rfl⟩⟩
    · exact parts_of_notMem _ hpart
    · exact parts_append part rest hpart

theorem parts_ne_nil (bs : Bytes) : parts bs ≠ [] := by
  by_cases hdot : dot ∈ bs
  · rcases List.eq_append_cons_of_mem hdot with ⟨front, rest, rfl, hfront⟩
    rw [parts_append front rest hfront]
    exact List.cons_ne_nil _ _
  · rw [parts_of_notMem bs hdot]
    exact List.cons_ne_nil _ _

/-- A byte string with three parts has two dots. -/
theorem parts_eq_three (bs header payload signature : Bytes) :
    parts bs = [header, payload, signature] ↔
      bs = header ++ dot :: (payload ++ dot :: signature) ∧
        dot ∉ header ∧ dot ∉ payload ∧ dot ∉ signature := by
  constructor
  · intro h
    rcases (parts_eq_cons _ _ _).mp h with ⟨hheader, ⟨_, hnone⟩ | ⟨rest, rfl, hrest⟩⟩
    · exact absurd hnone (List.cons_ne_nil _ _)
    rcases (parts_eq_cons _ _ _).mp hrest with ⟨hpayload, ⟨_, hnone⟩ | ⟨rest, rfl, hlast⟩⟩
    · exact absurd hnone (List.cons_ne_nil _ _)
    rcases (parts_eq_cons _ _ _).mp hlast with ⟨hsignature, ⟨rfl, _⟩ | ⟨rest, rfl, hnone⟩⟩
    · exact ⟨rfl, hheader, hpayload, hsignature⟩
    · exact absurd hnone (parts_ne_nil rest)
  · intro h
    rcases h with ⟨rfl, hheader, hpayload, hsignature⟩
    rw [parts_append _ _ hheader, parts_append _ _ hpayload, parts_of_notMem _ hsignature]

/-- A token and its three parts. -/
structure Compact (token header payload signature : String) : Prop where
  joined : token = header ++ "." ++ payload ++ "." ++ signature
  header : '.' ∉ header.toList
  payload : '.' ∉ payload.toList
  signature : '.' ∉ signature.toList

/-- A dot is one byte, and no other character has it in its bytes. -/
theorem dot_mem_encode (s : String) : dot ∈ Utf8.encode s ↔ '.' ∈ s.toList :=
  Utf8.mem_encode dot (by decide) s

theorem encode_joined (s t : String) :
    Utf8.encode (s ++ "." ++ t) = Utf8.encode s ++ dot :: Utf8.encode t := by
  rw [Utf8.encode_append, Utf8.encode_append, List.append_assoc]
  rfl

/-- Parts of the bytes of a token are bytes of its parts. -/
theorem parts_encode (token : String) (h p s : Bytes) :
    parts (Utf8.encode token) = [h, p, s] ↔
      ∃ header payload signature, Compact token header payload signature ∧
        Utf8.encode header = h ∧ Utf8.encode payload = p ∧ Utf8.encode signature = s := by
  rw [parts_eq_three]
  constructor
  · intro hparts
    rcases hparts with ⟨hbytes, hheader, hpayload, hsignature⟩
    rcases Utf8.cut_at_byte dot (by decide) token _ _ hbytes with ⟨header, rest, htoken, rfl, hrest⟩
    rcases Utf8.cut_at_byte dot (by decide) rest _ _ hrest with ⟨payload, signature, rfl, rfl, rfl⟩
    rw [dot_mem_encode] at hheader hpayload hsignature
    refine ⟨header, payload, signature, ⟨?_, hheader, hpayload, hsignature⟩, rfl, rfl, rfl⟩
    rw [htoken, ← String.append_assoc, ← String.append_assoc]
    rfl
  · intro hparts
    rcases hparts with ⟨header, payload, signature, hcompact, rfl, rfl, rfl⟩
    rw [dot_mem_encode, dot_mem_encode, dot_mem_encode, hcompact.joined, encode_joined,
      encode_joined, List.append_assoc]
    exact ⟨rfl, hcompact.header, hcompact.payload, hcompact.signature⟩

/-- A header that names an algorithm: base64url text around a JSON record. -/
def Names (header name : String) : Prop :=
  ∃ bs value record, Base64.decodeUrl header = .ok bs ∧ Json.read? bs = some value ∧
    Json.record? ["alg"] value = some record ∧ record.required? "alg" Json.text? = some name

/-- A part that is a key's signature of a text. -/
def Signs (schemes : SignatureSchemes) (key : WebKey) (spelled message : String) : Prop :=
  ∃ signature : Octets 64, Base64.decodeUrl spelled = .ok signature.toBytes ∧
    schemes.Valid key (Utf8.encode message) signature

-- A part is JSON, then a record, then what is looked for.
theorem readPart_eq_ok {α : Type} (names : List String) (f : Json.Record → Option α) (bs : Bytes)
    (a : α) : readPart names f bs = .ok a ↔
      ∃ value record, Json.read? bs = some value ∧ Json.record? names value = some record ∧
        f record = some a := by
  have hsome : readPart names f bs = .ok a ↔
      Json.read? bs >>= Json.record? names >>= f = some a := by
    unfold readPart
    cases Json.read? bs >>= Json.record? names >>= f with
    | none => simp only [reduceCtorEq]
    | some found => simp only [Except.ok.injEq, Option.some.injEq]
  rw [hsome]
  simp only [Option.bind_eq_bind, Option.bind_eq_some_iff]
  constructor
  · intro h
    rcases h with ⟨record, ⟨value, hvalue, hrecord⟩, hfound⟩
    exact ⟨value, record, hvalue, hrecord, hfound⟩
  · intro h
    rcases h with ⟨value, record, hvalue, hrecord, hfound⟩
    exact ⟨record, ⟨value, hvalue, hrecord⟩, hfound⟩

/-- A header is read as the algorithm that it names. -/
theorem headerAlgorithm_eq_ok (header name : String) :
    headerAlgorithm (Utf8.encode header) = .ok name ↔ Names header name := by
  unfold headerAlgorithm Names Base64.decodeUrl
  simp only [Outcome.bind_eq_ok, decodePart_eq_ok, readPart_eq_ok]
  constructor
  · intro h
    rcases h with ⟨bs, hbs, value, record, hvalue, hrecord, hname⟩
    exact ⟨bs, value, record, hbs, hvalue, hrecord, hname⟩
  · intro h
    rcases h with ⟨bs, value, record, hbs, hvalue, hrecord, hname⟩
    exact ⟨bs, hbs, value, record, hvalue, hrecord, hname⟩

/-- No symbol is a dot, so what is written has no parts. -/
theorem dot_notMem_encodeUrl (bs : Bytes) : '.' ∉ (Base64.encodeUrl bs).toList := by
  rw [← dot_mem_encode, Base64.encode_encodeUrl]
  intro hdot
  exact absurd (Base64.has_of_mem_urlSymbols bs dot hdot) (by decide)

-- Payloads are compared as bytes by the program and as texts here.
theorem payload_iff (payload : String) (signed : Bytes) :
    Utf8.encode payload = [] ∨ Utf8.encode payload = Base64.urlSymbols signed ↔
      payload = "" ∨ payload = Base64.encodeUrl signed := by
  rw [← Base64.encode_encodeUrl, Utf8.encode_inj, show ([] : Bytes) = Utf8.encode "" from rfl,
    Utf8.encode_inj]

section Checks

variable (schemes : SignatureSchemes) (key : WebKey)

/-- Checking a token is checking its three parts. -/
theorem verify_of_compact (token header payload signature : String) (signed : Bytes)
    (h : Compact token header payload signature) :
    verify schemes token key signed =
      verifyParts schemes key signed (Utf8.encode header) (Utf8.encode payload)
        (Utf8.encode signature) := by
  have hparts := (parts_encode token _ _ _).mpr ⟨header, payload, signature, h, rfl, rfl, rfl⟩
  rw [verify, verifyBytes, hparts]

/-- A payload that is left out is as good as one that spells the bytes. -/
theorem verifyParts_detached (signed header signature : Bytes) :
    verifyParts schemes key signed header [] signature =
      verifyParts schemes key signed header (Base64.urlSymbols signed) signature := by
  unfold verifyParts
  simp only [ne_eq, not_true, false_and, and_false, if_false]

/-- A payload that is accepted for some bytes is refused for all others. -/
theorem verifyParts_otherPayload (signed other header payload signature : Bytes)
    (h : verifyParts schemes key signed header payload signature = .ok ())
    (hpayload : payload ≠ []) (hother : other ≠ signed) :
    verifyParts schemes key other header payload signature = .error .payloadMismatch := by
  rcases (verifyParts_eq_ok _ _ _ _ _ _).mp h with ⟨_, hheader, hspelled, _, _⟩
  have hsigned : payload = Base64.urlSymbols signed := hspelled.resolve_left hpayload
  have hmismatch : payload ≠ Base64.urlSymbols other := by
    rw [hsigned, ne_eq, Base64.urlSymbols_inj]
    exact Ne.symm hother
  unfold verifyParts
  refine (Outcome.bind_eq_error _ _ _).mpr (.inr ⟨_, hheader, ?_⟩)
  simp only [ne_eq, not_true, if_false, hpayload, hmismatch, not_false_eq_true, and_self, if_true,
    Outcome.throw_eq, Outcome.error_bind]

-- A signature is a text, too, and is decoded before it is checked.
theorem signs_iff (signature header : String) (signed : Bytes) :
    Signs schemes key signature (header ++ "." ++ Base64.encodeUrl signed) ↔
      ∃ bs, Base64.decodeUrlBytes (Utf8.encode signature) = .ok bs ∧
        schemes.accepts key (Utf8.encode header ++ dot :: Base64.urlSymbols signed) bs = true := by
  unfold Signs Base64.decodeUrl
  rw [encode_joined, Base64.encode_encodeUrl]
  simp only [SignatureSchemes.accepts_eq_true]
  constructor
  · intro h
    rcases h with ⟨found, hread, hvalid⟩
    exact ⟨found.toBytes, hread, found, rfl, hvalid⟩
  · intro h
    rcases h with ⟨_, hread, found, rfl, hvalid⟩
    exact ⟨found, hread, hvalid⟩

/-- Which tokens are accepted, as texts. -/
theorem verify_eq_ok_iff (token : String) (signed : Bytes) :
    verify schemes token key signed = .ok () ↔
      ∃ header payload signature, Compact token header payload signature ∧
        Names header key.algorithm.name ∧
        (payload = "" ∨ payload = Base64.encodeUrl signed) ∧
        Signs schemes key signature (header ++ "." ++ Base64.encodeUrl signed) := by
  simp only [signs_iff, ← payload_iff, ← headerAlgorithm_eq_ok]
  constructor
  · intro h
    rcases (verify_eq_ok schemes token key signed).mp h with
      ⟨_, _, _, bs, hparts, hheader, hpayload, hread, haccepts⟩
    rcases (parts_encode token _ _ _).mp hparts with
      ⟨header, payload, signature, hcompact, rfl, rfl, rfl⟩
    exact ⟨header, payload, signature, hcompact, hheader, hpayload, bs, hread, haccepts⟩
  · intro h
    rcases h with ⟨header, payload, signature, hcompact, hheader, hpayload, bs, hread, haccepts⟩
    rw [verify_of_compact schemes key token header payload signature signed hcompact]
    exact (verifyParts_eq_ok _ _ _ _ _ _).mpr ⟨bs, hheader, hpayload, hread, haccepts⟩

end Checks

/-- What the tokens of a key say about payloads. -/
structure BoundToPayload (schemes : SignatureSchemes) (key : WebKey) : Prop where
  -- Whether a payload is left out or spelled makes no difference, neither to tokens that
  -- are accepted nor to how others are refused.
  detached : ∀ header signature signed, '.' ∉ header.toList → '.' ∉ signature.toList →
    verify schemes (header ++ ".." ++ signature) key signed =
      verify schemes (header ++ "." ++ Base64.encodeUrl signed ++ "." ++ signature) key signed
  -- A token is accepted exactly if it has three parts, its header names the key's algorithm,
  -- a payload that is there spells the bytes, and the last part is the key's signature of
  -- the header and the spelled bytes.
  accepted : ∀ token signed, verify schemes token key signed = .ok () ↔
    ∃ header payload signature, Compact token header payload signature ∧
      Names header key.algorithm.name ∧
      (payload = "" ∨ payload = Base64.encodeUrl signed) ∧
      Signs schemes key signature (header ++ "." ++ Base64.encodeUrl signed)
  -- With its payload, it is refused for all other bytes, and for this reason.
  otherPayload : ∀ token header payload signature signed other,
    verify schemes token key signed = .ok () → Compact token header payload signature →
      payload ≠ "" → other ≠ signed →
      verify schemes token key other = .error .payloadMismatch

/-- A token is bound to its payload, whatever the key and the signature schemes are. -/
theorem boundToPayload (schemes : SignatureSchemes) (key : WebKey) :
    BoundToPayload schemes key where
  detached header signature signed hheader hsignature := by
    have hdetached : Compact (header ++ ".." ++ signature) header "" signature := by
      refine ⟨?_, hheader, List.not_mem_nil, hsignature⟩
      rw [String.append_empty, show ".." = "." ++ "." from rfl, ← String.append_assoc]
    rw [verify_of_compact schemes key _ _ _ _ signed hdetached,
      verify_of_compact schemes key _ _ _ _ signed
        ⟨rfl, hheader, dot_notMem_encodeUrl signed, hsignature⟩, Base64.encode_encodeUrl]
    exact verifyParts_detached schemes key signed _ _
  accepted := verify_eq_ok_iff schemes key
  otherPayload token header payload signature signed other h hcompact hpayload hother := by
    rw [verify_of_compact schemes key token header payload signature _ hcompact] at h ⊢
    refine verifyParts_otherPayload schemes key signed other _ _ _ h (fun hempty => ?_) hother
    exact hpayload ((Utf8.encode_inj payload "").mp hempty)

-- A scheme that knows one signature. The token with its payload is refused for other bytes
-- because of the payload, and the one without because of the signature.
example :
    let signed : Bytes := [104, 97, 115, 104]
    let schemes : SignatureSchemes := {
      es256 := fun _ _ _ => false
      edDsa := fun _ message signature =>
        message = Utf8.encode "eyJhbGciOiJFZERTQSJ9.aGFzaA" ∧ signature = Octets.replicate 64 0 }
    let key : WebKey := .edDsa (Octets.replicate 32 1)
    let signature := Base64.encodeUrl (List.replicate 64 0)
    let attached := "eyJhbGciOiJFZERTQSJ9.aGFzaA." ++ signature
    let detached := "eyJhbGciOiJFZERTQSJ9.." ++ signature
    verify schemes attached key signed = .ok () ∧ verify schemes detached key signed = .ok () ∧
      verify schemes attached key [104] = .error .payloadMismatch ∧
      verify schemes detached key [104] = .error .badSignature := by
  decide +kernel

end Token

end Cosigner
