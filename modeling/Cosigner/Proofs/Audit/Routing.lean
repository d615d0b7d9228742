import Cosigner.Audit.Route
import Cosigner.Proofs.Outcome
import Mathlib.Data.List.Nodup

/-!
# What Routing Yields

Routing looks at every instruction of the wallet program and comes out with a
list of obligations. Some instructions have none, so the two lists do not match
entry by entry, and what an obligation is about has to be said in terms of the
instructions that have one. These are the instructions whose request is not a
no-op. Against them the obligations match, in order, and everything later that
speaks of places in a transaction starts from this match.

The signers of an obligation have two sources that are kept apart here. Plain
signers are accounts of the instruction that carry the signer flag. Passkeys are
named one by one by the request, in its order.

## Main definitions

* `Request.uses`: The signed messages that a request refers to.
* `Instruction.isNoOp`: Whether an instruction needs no authorization.
* `Instruction.uses`: The signed messages that an instruction refers to.
* `obliging`: The instructions that have an obligation.
* `Signer.NamedBy`: A passkey as a reference to a signed message names it.
* `SignedMessage.CarriedBy`: A signed message that instructions carry.

## Theorems

* `signersOf_eq_ok`: The signers of an instruction.
* `nodup_plainSigners`, `mem_plainSigners`: Its plain signers.
* `Request.uses_of_demand`: A request is authorized by all messages that it refers to.
* `RouteContext.process_eq_none`, `RouteContext.process_eq_some`: What one
  instruction comes out with.
* `route_eq_ok`: Obligations match the instructions that have one.
* `carriedMessages_carriedBy`: Signed messages come from the transaction.
-/

namespace Cosigner

/-- The signed messages that a request refers to in its arguments, in their order. Changing
    settings and executing a message take several, other operations one at most. -/
def Request.uses : Request → List MessageUse
  | .changeConfig a => a.uses
  | .changeConfigCompressed a => a.arguments.uses
  | .transferIntent a => a.use.toList
  | .transferIntentCompressed a => a.arguments.use.toList
  | .bufferCreate a => a.use.toList
  | .bufferCreateCompressed a => a.arguments.use.toList
  | .executeSync a => a.uses
  | .executeSyncCompressed a => a.arguments.uses
  | .createUserAccounts a => a.use.toList
  | .editManagerUrl _ | .noOp _ | .unrouted _ => []

namespace Instruction

/-- Whether an instruction is a request that needs no authorization. -/
def isNoOp (ix : Instruction) : Bool :=
  match Request.parse ix.data with
  | .ok (.noOp _) => true
  | _ => false

/-- The signed messages that an instruction refers to, in its order. -/
def uses (ix : Instruction) : List MessageUse :=
  match Request.parse ix.data with
  | .ok request => request.uses
  | .error _ => []

end Instruction

/-- The instructions that have an obligation: those of the wallet program that
    are no no-ops. -/
def obliging (program : Address) (ixs : List Instruction) : List Instruction :=
  ixs.filter fun ix => ix.program = program && !ix.isNoOp

/-- A passkey as a reference to a signed message names it. -/
def Signer.NamedBy (messages : List SignedMessage) (use : MessageUse) (s : Signer) : Prop :=
  ∃ m, messages[use.message.toNat]? = some m ∧ s = .passkey m.publicKey (some ⟨m.hash, use.slot⟩)

/-- A signed message that some instruction for passkey signatures carries. -/
def SignedMessage.CarriedBy (m : SignedMessage) (ixs : List Instruction) : Prop :=
  m.hash = Sha256.digest m.message ∧
    ∃ ix ∈ ixs, ix.program = Program.passkeyVerifier ∧
      ∃ found, SignedMessage.ofData ixs ix.data = .ok found ∧ m ∈ found

theorem Signer.NamedBy.isPasskey (messages : List SignedMessage) (use : MessageUse) (s : Signer)
    (h : NamedBy messages use s) : s.isPasskey = true := by
  rcases h with ⟨m, _, rfl⟩
  rfl

-- Repetitions are left out, and nothing else.
theorem mem_firstOccurrences {α : Type} [DecidableEq α] (x : α) (xs : List α) :
    x ∈ firstOccurrences xs ↔ x ∈ xs := by
  induction xs with
  | nil => rfl
  | cons y rest ih =>
      rw [firstOccurrences, List.mem_cons, List.mem_cons, List.mem_filter, ih]
      by_cases h : x = y
      · simp only [h, true_or]
      · simp only [h, ne_eq, not_false_eq_true, decide_true, and_true]

theorem nodup_firstOccurrences {α : Type} [DecidableEq α] (xs : List α) :
    (firstOccurrences xs).Nodup := by
  induction xs with
  | nil => exact List.nodup_nil
  | cons y rest ih =>
      rw [firstOccurrences, List.nodup_cons]
      refine ⟨fun hmem => ?_, ih.filter _⟩
      have hne := (List.mem_filter.mp hmem).2
      exact absurd rfl (of_decide_eq_true hne)

/-- A plain signer is listed once, however often an instruction names it. -/
theorem nodup_plainSigners (feePayer : Address) (ix : Instruction) :
    (plainSigners feePayer ix).Nodup :=
  nodup_firstOccurrences _

/-- A plain signer is an account with the signer flag that does not pay. -/
theorem mem_plainSigners (feePayer : Address) (ix : Instruction) (key : Address) :
    key ∈ plainSigners feePayer ix ↔
      (∃ ref ∈ ix.accounts, ref.key = key ∧ ref.role.signer = true) ∧ key ≠ feePayer := by
  unfold plainSigners
  rw [mem_firstOccurrences, List.mem_map]
  simp only [List.mem_filter, Bool.and_eq_true, decide_eq_true_eq]
  constructor
  · intro h
    rcases h with ⟨ref, ⟨hmem, hsigner, hne⟩, rfl⟩
    exact ⟨⟨ref, hmem, rfl, hsigner⟩, hne⟩
  · intro h
    rcases h with ⟨⟨ref, hmem, rfl, hsigner⟩, hne⟩
    exact ⟨ref, ⟨hmem, hsigner, hne⟩, rfl⟩

/-- A reference yields the passkey that it names. -/
theorem Signer.ofUse_eq_ok (messages : List SignedMessage) (use : MessageUse) (s : Signer) :
    ofUse messages use = .ok s ↔ NamedBy messages use s := by
  unfold ofUse NamedBy
  cases messages[use.message.toNat]? with
  | none => simp only [reduceCtorEq, false_and, exists_false]
  | some m => simp only [Except.ok.injEq, Option.some.injEq, exists_eq_left', eq_comm]

/-- The signers of an instruction: its plain signers, and the passkeys that its
    request names. -/
theorem signersOf_eq_ok (feePayer : Address) (messages : List SignedMessage)
    (ix : Instruction) (uses : List MessageUse) (signers : List Signer) :
    signersOf feePayer messages ix uses = .ok signers ↔
      ∃ passkeys, List.Forall₂ (Signer.NamedBy messages) uses passkeys ∧
        signers = (plainSigners feePayer ix).map .plain ++ passkeys := by
  unfold signersOf
  simp only [Outcome.bind_eq_ok, Outcome.mapM_eq_ok, Outcome.pure_eq_ok, Signer.ofUse_eq_ok]
  exact exists_congr fun passkeys => and_congr_right fun _ => eq_comm

/-- Only requests without authorization demand nothing. -/
theorem Request.demand_eq_none (r : Request) :
    r.demand = .ok none ↔ ∃ op, r = .noOp op := by
  cases r <;> simp only [demand, Except.ok.injEq, reduceCtorEq, exists_false, noOp.injEq,
    exists_eq']

/-- What a request demands is authorized by all messages that it refers to. -/
theorem Request.uses_of_demand (r : Request) (d : Demand) (h : r.demand = .ok (some d)) :
    d.uses = r.uses := by
  cases r with
  | noOp op => cases h
  | unrouted what => cases h
  | _ =>
      cases h
      rfl

namespace RouteContext

/-- A demand is met if the subject is found and the signers are known. -/
theorem meet_eq_ok (c : RouteContext) (ix : Instruction) (d : Demand) (o : Obligation) :
    (c.meet ix d).result = .ok o ↔
      (c.subject ix d.wallet d.content).result = .ok (o.settings, o.instructions) ∧
        signersOf c.feePayer c.messages ix d.uses = .ok o.signers := by
  unfold meet
  simp only [Query.result_bind_eq_ok, Query.result_ofExcept, Query.result_pure, Except.ok.injEq,
    Prod.exists]
  constructor
  · intro h
    rcases h with ⟨settings, instructions, hsubject, signers, hsigners, rfl⟩
    exact ⟨hsubject, hsigners⟩
  · intro h
    rcases h with ⟨hsubject, hsigners⟩
    exact ⟨o.settings, o.instructions, hsubject, o.signers, hsigners, rfl⟩

/-- An instruction comes out without an obligation exactly if it is a no-op. -/
theorem process_eq_none (c : RouteContext) (ix : Instruction) :
    (c.process ix).result = .ok none ↔ ix.isNoOp = true := by
  unfold process Instruction.isNoOp
  simp only [Query.result_bind_eq_ok, Query.result_ofExcept, Outcome.mapError_eq_ok]
  constructor
  · intro h
    rcases h with ⟨request, hparse, d?, hdemand, h⟩
    cases d? with
    | none =>
        -- Only a no-op has no demand.
        rcases request.demand_eq_none.mp hdemand with ⟨op, rfl⟩
        simp only [hparse]
    | some d =>
        rcases (Query.result_bind_eq_ok _ _ _).mp h with ⟨o, _, ho⟩
        simp only [Query.result_pure, Except.ok.injEq, reduceCtorEq] at ho
  · intro h
    split at h
    · rename_i op hparse
      exact ⟨.noOp op, hparse, none, rfl, rfl⟩
    · exact absurd h Bool.false_ne_true

/-- An instruction comes out with an obligation if its request has a demand that
    is met. -/
theorem process_eq_some (c : RouteContext) (ix : Instruction) (o : Obligation) :
    (c.process ix).result = .ok (some o) ↔
      ∃ request d, Request.parse ix.data = .ok request ∧ request.demand = .ok (some d) ∧
        (c.meet ix d).result = .ok o := by
  unfold process
  simp only [Query.result_bind_eq_ok, Query.result_ofExcept, Outcome.mapError_eq_ok]
  constructor
  · intro h
    rcases h with ⟨request, hparse, d?, hdemand, h⟩
    cases d? with
    | none => simp only [Query.result_pure, Except.ok.injEq, reduceCtorEq] at h
    | some d =>
        rcases (Query.result_bind_eq_ok _ _ _).mp h with ⟨o', hmeet, ho⟩
        simp only [Query.result_pure, Except.ok.injEq, Option.some.injEq] at ho
        rw [← ho]
        exact ⟨request, d, hparse, hdemand, hmeet⟩
  · intro h
    rcases h with ⟨request, d, hparse, hdemand, hmeet⟩
    exact ⟨request, hparse, some d, hdemand, (Query.result_bind_eq_ok _ _ _).mpr ⟨o, hmeet, rfl⟩⟩

/-- The signers of an obligation are those that its instruction names. -/
theorem process_signers (c : RouteContext) (ix : Instruction) (o : Obligation)
    (h : (c.process ix).result = .ok (some o)) :
    ∃ passkeys, List.Forall₂ (Signer.NamedBy c.messages) ix.uses passkeys ∧
      o.signers = (plainSigners c.feePayer ix).map .plain ++ passkeys := by
  rcases (process_eq_some c ix o).mp h with ⟨request, d, hparse, hdemand, hmeet⟩
  have huses : ix.uses = d.uses := by
    simp only [Instruction.uses, hparse, request.uses_of_demand d hdemand]
  rw [huses]
  exact (signersOf_eq_ok _ _ _ _ _).mp ((meet_eq_ok c ix d o).mp hmeet).2

end RouteContext

/-- Outcomes that are left out belong to entries that are left out. -/
theorem forall₂_filterMap {α β : Type} (R : α → Option β → Prop) (skip : α → Bool)
    (hskip : ∀ x, R x none ↔ skip x = true) (hone : ∀ x y, R x (some y) → skip x = false)
    (xs : List α) (ys : List β) :
    (∃ os, List.Forall₂ R xs os ∧ os.filterMap id = ys) ↔
      List.Forall₂ (fun x y => R x (some y)) (xs.filter fun x => !skip x) ys := by
  induction xs generalizing ys with
  | nil =>
      simp only [List.forall₂_nil_left_iff, List.filter_nil, exists_eq_left, List.filterMap_nil]
      exact eq_comm
  | cons x xs ih =>
      constructor
      · intro h
        rcases h with ⟨os, hall, rfl⟩
        rcases List.forall₂_cons_left_iff.mp hall with ⟨o?, rest, hx, hrest, rfl⟩
        have htail := (ih _).mp ⟨rest, hrest, rfl⟩
        -- An outcome is left out exactly if its entry is.
        cases o? with
        | none =>
            simpa only [List.filter_cons, (hskip x).mp hx, Bool.not_true, Bool.false_eq_true,
              if_false, List.filterMap_cons, id] using htail
        | some y =>
            simp only [List.filter_cons, hone x y hx, Bool.not_false, if_true,
              List.filterMap_cons, id]
            exact .cons hx htail
      · intro hall
        by_cases hs : skip x = true
        · simp only [List.filter_cons, hs, Bool.not_true, Bool.false_eq_true, if_false] at hall
          rcases (ih ys).mpr hall with ⟨os, hrest, rfl⟩
          exact ⟨none :: os, .cons ((hskip x).mpr hs) hrest, rfl⟩
        · simp only [List.filter_cons, hs, Bool.not_false, if_true] at hall
          rcases List.forall₂_cons_left_iff.mp hall with ⟨y, rest, hx, hrest, rfl⟩
          rcases (ih rest).mpr hrest with ⟨os, hos, rfl⟩
          exact ⟨some y :: os, .cons hx hos, rfl⟩

/-- Obligations match the instructions that have one, in order. -/
theorem route_eq_ok (program : Address) (ledger : Ledger) (ixs : List Instruction)
    (feePayer : Address) (os : List Obligation) :
    (route program ledger ixs feePayer).result = .ok os ↔
      checkPrograms program ixs = .ok () ∧ ∃ messages, carriedMessages ixs = .ok messages ∧
        List.Forall₂ (fun ix o => (RouteContext.process ⟨program, ledger, feePayer, messages⟩
          ix).result = .ok (some o)) (obliging program ixs) os := by
  unfold route
  simp only [Query.result_bind_eq_ok, Query.result_ofExcept, Query.result_forAll_eq_ok,
    Query.result_pure, Except.ok.injEq]
  -- The instructions of the wallet program come out with or without an
  -- obligation; leaving out the latter leaves the instructions that have one.
  have hmatch : ∀ c : RouteContext,
      (∃ outcomes, List.Forall₂ (fun ix o? => (c.process ix).result = .ok o?)
        (ixs.filter (·.program = program)) outcomes ∧ outcomes.filterMap id = os) ↔
      List.Forall₂ (fun ix o => (c.process ix).result = .ok (some o)) (obliging program ixs)
        os := by
    intro c
    have hobliging : obliging program ixs =
        (ixs.filter (·.program = program)).filter fun ix => !ix.isNoOp := by
      rw [obliging, List.filter_filter]
      exact List.filter_congr fun ix _ => Bool.and_comm _ _
    rw [hobliging]
    refine forall₂_filterMap _ Instruction.isNoOp (c.process_eq_none ·) (fun ix o h => ?_) _ _
    by_contra hnoop
    rw [Bool.not_eq_false] at hnoop
    rw [(c.process_eq_none ix).mpr hnoop] at h
    exact absurd h (by simp only [Except.ok.injEq, reduceCtorEq, not_false_eq_true])
  simp only [hmatch]
  constructor
  · intro h
    rcases h with ⟨_, hprograms, messages, hmessages, hos⟩
    exact ⟨hprograms, messages, hmessages, hos⟩
  · intro h
    rcases h with ⟨hprograms, messages, hmessages, hos⟩
    exact ⟨(), hprograms, messages, hmessages, hos⟩

namespace SignedMessage

-- Hashes are computed where the messages are read, so they need no check.
theorem ofRecord_hash (ixs : List Instruction) (own : Bytes) (o : SignatureOffsets)
    (m : SignedMessage) (h : ofRecord ixs own o = .ok m) : m.hash = Sha256.digest m.message := by
  unfold ofRecord at h
  simp only [Outcome.bind_eq_ok] at h
  rcases h with ⟨key, _, message, _, h⟩
  split at h
  · rw [Outcome.pure_eq_ok] at h
    rw [← h]
  · exact absurd h (by simp only [Outcome.throw_eq, reduceCtorEq, not_false_eq_true])

theorem ofData_hash (ixs : List Instruction) (own : Bytes) (found : List SignedMessage)
    (h : ofData ixs own = .ok found) (m : SignedMessage) (hmem : m ∈ found) :
    m.hash = Sha256.digest m.message := by
  unfold ofData at h
  split at h
  · exact absurd h (by simp only [reduceCtorEq, not_false_eq_true])
  · rw [Outcome.mapM_eq_ok] at h
    rcases List.forall₂_iff_get.mp h with ⟨hlength, hget⟩
    rcases List.mem_iff_get.mp hmem with ⟨place, rfl⟩
    have hrecord := hget place.val (by rw [hlength]; exact place.isLt) place.isLt
    rcases (Outcome.bind_eq_ok _ _ _).mp hrecord with ⟨o, _, ho⟩
    exact ofRecord_hash ixs _ o _ ho

/-- What is collected from some instructions is carried by all of them. -/
theorem collect_carriedBy (ixs : List Instruction) (position : Nat) (rest : List Instruction)
    (hrest : ∀ ix ∈ rest, ix ∈ ixs) (messages : List SignedMessage)
    (h : collect ixs position rest = .ok messages) (m : SignedMessage) (hmem : m ∈ messages) :
    m.CarriedBy ixs := by
  -- The induction is on the instructions that are left to look at; records refer
  -- to all instructions throughout.
  induction rest generalizing position messages with
  | nil =>
      simp only [collect, Except.ok.injEq] at h
      rw [← h] at hmem
      exact absurd hmem List.not_mem_nil
  | cons ix rest ih =>
      have htail : ∀ ix ∈ rest, ix ∈ ixs := fun ix hix => hrest ix (List.mem_cons_of_mem _ hix)
      unfold collect at h
      by_cases hprogram : ix.program = Program.passkeyVerifier
      · rw [if_pos hprogram] at h
        split at h
        · exact absurd h (by simp only [reduceCtorEq, not_false_eq_true])
        · rename_i found hfound
          rcases (Outcome.map_eq_ok _ _ _).mp h with ⟨others, hothers, rfl⟩
          rcases List.mem_append.mp hmem with hown | hother
          · exact ⟨ofData_hash ixs ix.data found hfound m hown, ix,
              hrest ix List.mem_cons_self, hprogram, found, hfound, hown⟩
          · exact ih (position + 1) htail others hothers hother
      · rw [if_neg hprogram] at h
        exact ih (position + 1) htail messages h hmem

end SignedMessage

/-- The signed messages of a transaction are carried by its instructions. -/
theorem carriedMessages_carriedBy (ixs : List Instruction) (messages : List SignedMessage)
    (h : carriedMessages ixs = .ok messages) (m : SignedMessage) (hmem : m ∈ messages) :
    m.CarriedBy ixs :=
  SignedMessage.collect_carriedBy ixs 0 ixs (fun _ hix => hix) messages
    ((Outcome.mapError_eq_ok _ _ _).mp h) m hmem

end Cosigner
