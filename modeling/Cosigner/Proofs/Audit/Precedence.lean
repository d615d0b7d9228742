import Cosigner.Proofs.Audit.Routing
import Cosigner.Proofs.Wallet.Request

/-!
# What Routing Refuses, and With What

A transaction is routed as a whole or not at all, and when it is refused there is
one reason, which does not depend on how much else is wrong with it. Programs
are looked at first, then the signed messages, then the requests to the wallet
program one by one. Within each of these the first fault in the order of the
transaction is the one reported.

The last part has to be total. A request that is not understood must not be
passed over, because what is passed over is signed without anyone's
authorization. So the requests are divided by what their data opens with: twelve
operations are routed, three are exempt, and whatever opens with anything else,
or is too short to open with an operation, is refused. Only the exempt ones come
out with nothing, and they do so whatever their arguments and accounts are.

## Main definitions

* `Operation.routed`: The operations that need authorization.
* `Operation.exempt`: The operations that need none.
* `Instruction.Opens`: An instruction whose data opens with an operation.
* `RoutesWhole`: Routing as a whole or not at all.

## Theorems

* `Instruction.isNoOp_iff`: Which instructions need no authorization.
* `RouteContext.process_of_exempt`: They come out with nothing.
* `RouteContext.process_of_unknown`: What is not understood is refused.
* `route_eq_error`: The three reasons for a refusal, in their order.
* `route_of_unknown`: What is not understood takes the transaction with it.
* `route_getElem?_congr`: An obligation depends on its own instruction.
* `route_allOrNothing`: A transaction is routed as a whole or not at all.
-/

namespace Cosigner

namespace Operation

/-- The operations that need authorization. -/
def routed : List Operation :=
  [.changeConfig, .changeConfigCompressed, .nativeTransferIntent, .tokenTransferIntent,
    .nativeTransferIntentCompressed, .tokenTransferIntentCompressed, .transactionBufferCreate,
    .transactionBufferCreateCompressed, .transactionExecuteSync,
    .transactionExecuteSyncCompressed, .createUserAccounts, .editTransactionManagerUrl]

/-- The operations that need no authorization beyond what the program checks. -/
def exempt : List Operation :=
  [.decompressSettingsAccount, .transactionBufferClose, .transactionBufferCloseCompressed]

end Operation

/-- An instruction whose data opens with the discriminator of an operation. -/
def Instruction.Opens (ix : Instruction) (op : Operation) : Prop :=
  op.discriminator.toBytes <+: ix.data

instance (ix : Instruction) (op : Operation) : Decidable (ix.Opens op) :=
  inferInstanceAs (Decidable (op.discriminator.toBytes <+: ix.data))

-- An instruction opens with an operation if its data are those of some arguments.
theorem Instruction.opens_iff (ix : Instruction) (op : Operation) :
    ix.Opens op ↔ ∃ arguments, ix.data = op.withArguments arguments := by
  constructor
  · intro h
    rcases h with ⟨arguments, hdata⟩
    exact ⟨arguments, hdata.symm⟩
  · intro h
    rcases h with ⟨arguments, hdata⟩
    exact ⟨arguments, hdata.symm⟩

theorem Instruction.eight_le_of_opens (ix : Instruction) (op : Operation) (h : ix.Opens op) :
    8 ≤ ix.data.length := by
  have hle := List.IsPrefix.length_le h
  rwa [op.discriminator.length_eq] at hle

namespace Request

-- The arguments of exempt operations are not even read.
theorem ofArguments_of_exempt (op : Operation) (arguments : Bytes) (h : op ∈ Operation.exempt) :
    ofArguments op arguments = .ok (.noOp op) := by
  simp only [Operation.exempt, List.mem_cons, List.not_mem_nil, or_false] at h
  rcases h with rfl | rfl | rfl <;> rfl

/-- What is neither routed nor exempt is refused as such, whatever its arguments are. -/
theorem ofArguments_of_unknown (op : Operation) (arguments : Bytes)
    (hrouted : op ∉ Operation.routed) (hexempt : op ∉ Operation.exempt) :
    ofArguments op arguments = .ok (.unrouted (.operation op)) := by
  cases op
  case compressSettingsAccount | createDomainConfig | createWallet | transactionBufferExecute
    | transactionBufferExecuteCompressed | transactionBufferExtend
    | transactionBufferExtendCompressed | transactionBufferVote | transactionBufferVoteCompressed
    | transactionExecute | transactionExecuteCompressed => rfl
  case decompressSettingsAccount | transactionBufferClose | transactionBufferCloseCompressed =>
    exact absurd (by decide) hexempt
  all_goals exact absurd (by decide) hrouted

-- Arguments that have a layout make a request of another kind.
theorem exempt_of_noOp (op op' : Operation) (arguments : Bytes)
    (h : ofArguments op arguments = .ok (.noOp op')) : op ∈ Operation.exempt := by
  cases op
  case decompressSettingsAccount | transactionBufferClose | transactionBufferCloseCompressed =>
    decide
  all_goals
    simp only [ofArguments, Outcome.map_eq_ok, Except.ok.injEq, reduceCtorEq, and_false,
      exists_false] at h

end Request

-- The instructions that need no authorization are those that open with an exempt
-- operation.
theorem Instruction.isNoOp_iff (ix : Instruction) :
    ix.isNoOp = true ↔ ∃ op ∈ Operation.exempt, ix.Opens op := by
  have hnoop : ix.isNoOp = true ↔ ∃ op, Request.parse ix.data = .ok (.noOp op) := by
    unfold isNoOp
    split
    · rename_i op hparse
      exact ⟨fun _ => ⟨op, hparse⟩, fun _ => rfl⟩
    · rename_i hnone
      simp only [Bool.false_eq_true, false_iff, not_exists]
      exact hnone
  rw [hnoop]
  constructor
  · intro h
    rcases h with ⟨op', hparse⟩
    rcases Request.parse_cases ix.data with ⟨op, arguments, hdata, hread⟩ | ⟨_, hread⟩
    · rw [hread] at hparse
      exact ⟨op, Request.exempt_of_noOp op op' arguments hparse,
        (ix.opens_iff op).mpr ⟨arguments, hdata⟩⟩
    · rcases hread with ⟨e, hread⟩ | ⟨what, hread⟩
      · simp only [hread, reduceCtorEq] at hparse
      · simp only [hread, Except.ok.injEq, reduceCtorEq] at hparse
  · intro h
    rcases h with ⟨op, hop, hopens⟩
    rcases (ix.opens_iff op).mp hopens with ⟨arguments, hdata⟩
    exact ⟨op, by rw [hdata, Request.parse_withArguments,
      Request.ofArguments_of_exempt op arguments hop]⟩

namespace RouteContext

variable (c : RouteContext) (ix : Instruction)

/-- An exempt request comes out with nothing, and nothing is read for it. -/
theorem process_of_exempt (op : Operation) (hop : op ∈ Operation.exempt) (h : ix.Opens op) :
    c.process ix = pure none := by
  rcases (ix.opens_iff op).mp h with ⟨arguments, hdata⟩
  rw [process, hdata, Request.parse_withArguments, Request.ofArguments_of_exempt op arguments hop]
  rfl

/-- A request that opens with no operation, or with one that is neither routed nor
    exempt, is refused. -/
theorem process_of_unknown (h : ∀ op ∈ Operation.routed ++ Operation.exempt, ¬ ix.Opens op) :
    ∃ e, (c.process ix).result = .error e := by
  have hread : (∃ e, Request.parse ix.data = .error e) ∨
      ∃ what, Request.parse ix.data = .ok (.unrouted what) := by
    rcases Request.parse_cases ix.data with ⟨op, arguments, hdata, hread⟩ | ⟨_, hread⟩
    · have hop : op ∉ Operation.routed ++ Operation.exempt :=
        fun hc => h op hc ((ix.opens_iff op).mpr ⟨arguments, hdata⟩)
      rw [List.mem_append, not_or] at hop
      rw [Request.ofArguments_of_unknown op arguments hop.1 hop.2] at hread
      exact .inr ⟨_, hread⟩
    · exact hread
  rcases hread with ⟨e, hread⟩ | ⟨what, hread⟩
  · exact ⟨.badData e, by simp only [process, hread]; rfl⟩
  · exact ⟨.unroutedRequest what, by simp only [process, hread]; rfl⟩

end RouteContext

/-- Programs pass if all of them are listed. -/
theorem checkPrograms_eq_ok (program : Address) (ixs : List Instruction) :
    checkPrograms program ixs = .ok () ↔
      ∀ ix ∈ ixs, Program.isListed program ix.program = true := by
  unfold checkPrograms
  cases hfind : ixs.find? (fun ix => !Program.isListed program ix.program) with
  | none =>
      simp only [true_iff]
      intro ix hix
      have hnot := List.find?_eq_none.mp hfind ix hix
      rwa [Bool.not_eq_true, Bool.not_eq_false'] at hnot
  | some ix =>
      simp only [reduceCtorEq, false_iff]
      intro hall
      have hbad := List.find?_some hfind
      rw [hall ix (List.mem_of_find?_eq_some hfind)] at hbad
      exact absurd hbad (by decide)

-- The first instruction of a program that is not listed decides the refusal.
theorem checkPrograms_eq_error (program : Address) (ixs : List Instruction) (e : Refusal) :
    checkPrograms program ixs = .error e ↔
      ∃ before ix after, ixs = before ++ ix :: after ∧
        (∀ b ∈ before, Program.isListed program b.program = true) ∧
        Program.isListed program ix.program = false ∧ e = .unlistedProgram ix.program := by
  unfold checkPrograms
  constructor
  · intro h
    split at h
    · rename_i ix hfind
      rcases List.find?_eq_some_iff_append.mp hfind with ⟨hbad, before, after, hixs, hbefore⟩
      simp only [Bool.not_not] at hbefore
      rw [Bool.not_eq_true'] at hbad
      rw [Except.error.injEq] at h
      exact ⟨before, ix, after, hixs, hbefore, hbad, h.symm⟩
    · simp only [reduceCtorEq] at h
  · intro h
    rcases h with ⟨before, ix, after, hixs, hbefore, hbad, rfl⟩
    have hfind : ixs.find? (fun ix => !Program.isListed program ix.program) = some ix := by
      refine List.find?_eq_some_iff_append.mpr ⟨?_, before, after, hixs, fun b hb => ?_⟩
      · rw [hbad, Bool.not_false]
      · rw [hbefore b hb, Bool.not_not]
    rw [hfind]

-- The instructions that have an obligation, by what their data opens with.
theorem obliging_eq_filter (program : Address) (ixs : List Instruction) :
    obliging program ixs =
      ixs.filter fun ix => ix.program = program ∧ ∀ op ∈ Operation.exempt, ¬ ix.Opens op := by
  refine List.filter_congr fun ix _ => ?_
  rw [Bool.eq_iff_iff, Bool.and_eq_true, Bool.not_eq_true', ← Bool.not_eq_true, ix.isNoOp_iff,
    decide_eq_true_iff, decide_eq_true_iff]
  simp only [not_exists, not_and]

section Route

variable (program : Address) (ledger : Ledger) (ixs : List Instruction) (feePayer : Address)

-- The three reasons for a refusal, each of which counts only if the ones in front
-- of it do not apply.
theorem route_eq_error (e : Refusal) :
    (route program ledger ixs feePayer).result = .error e ↔
      checkPrograms program ixs = .error e ∨
      (checkPrograms program ixs = .ok () ∧ carriedMessages ixs = .error e) ∨
      (checkPrograms program ixs = .ok () ∧ ∃ messages, carriedMessages ixs = .ok messages ∧
        Outcome.FirstFailure
          (fun ix => (RouteContext.process ⟨program, ledger, feePayer, messages⟩ ix).result)
          (ixs.filter (·.program = program)) e) := by
  unfold route
  simp only [Query.result_bind_eq_error, Query.result_ofExcept, Query.result_forAll_eq_error,
    Query.result_pure, reduceCtorEq, and_false, exists_false, or_false]
  refine or_congr_right ?_
  constructor
  · intro h
    rcases h with ⟨_, hprograms, hmessages | ⟨messages, hmessages, hfirst⟩⟩
    · exact .inl ⟨hprograms, hmessages⟩
    · exact .inr ⟨hprograms, messages, hmessages, hfirst⟩
  · intro h
    rcases h with ⟨hprograms, hmessages⟩ | ⟨hprograms, messages, hmessages, hfirst⟩
    · exact ⟨(), hprograms, .inl hmessages⟩
    · exact ⟨(), hprograms, .inr ⟨messages, hmessages, hfirst⟩⟩

-- A request that is not understood takes the whole transaction with it.
theorem route_of_unknown (ix : Instruction) (hix : ix ∈ ixs) (hprogram : ix.program = program)
    (h : ∀ op ∈ Operation.routed ++ Operation.exempt, ¬ ix.Opens op) :
    ∃ e, (route program ledger ixs feePayer).result = .error e := by
  cases hroute : (route program ledger ixs feePayer).result with
  | error e => exact ⟨e, rfl⟩
  | ok os =>
      -- It would have an obligation, and being processed it has none.
      rcases (route_eq_ok _ _ _ _ _).mp hroute with ⟨_, messages, _, hos⟩
      have hmem : ix ∈ obliging program ixs := by
        rw [obliging_eq_filter, List.mem_filter, decide_eq_true_iff]
        exact ⟨hix, hprogram, fun op hop => h op (List.mem_append_right _ hop)⟩
      rcases (Outcome.exists_forall₂ _ _).mp ⟨os, hos⟩ ix hmem with ⟨o, ho⟩
      rcases RouteContext.process_of_unknown ⟨program, ledger, feePayer, messages⟩ ix h with
        ⟨e, he⟩
      rw [he] at ho
      exact absurd ho (by simp only [reduceCtorEq, not_false_eq_true])

/-- An obligation depends on its own instruction and on the signed messages of its
    transaction. The other instructions, and the place, have no part in it. -/
theorem route_getElem?_congr (ixs' : List Instruction) (messages : List SignedMessage)
    (os os' : List Obligation) (hmessages : carriedMessages ixs = .ok messages)
    (hmessages' : carriedMessages ixs' = .ok messages)
    (h : (route program ledger ixs feePayer).result = .ok os)
    (h' : (route program ledger ixs' feePayer).result = .ok os') (n n' : Nat)
    (hn : (obliging program ixs)[n]? = (obliging program ixs')[n']?) : os[n]? = os'[n']? := by
  rcases (route_eq_ok _ _ _ _ _).mp h with ⟨_, found, hfound, hos⟩
  rcases (route_eq_ok _ _ _ _ _).mp h' with ⟨_, found', hfound', hos'⟩
  rcases Except.ok.inj (hmessages.symm.trans hfound) with rfl
  rcases Except.ok.inj (hmessages'.symm.trans hfound') with rfl
  cases hix : (obliging program ixs)[n]? with
  | none =>
      -- Both places lie behind the last obligation.
      rw [List.getElem?_eq_none_iff, hos.length_eq] at hix
      have hix' := hn.symm.trans (List.getElem?_eq_none_iff.mpr (hos.length_eq ▸ hix))
      rw [List.getElem?_eq_none_iff, hos'.length_eq] at hix'
      rw [List.getElem?_eq_none_iff.mpr hix, List.getElem?_eq_none_iff.mpr hix']
  | some ix =>
      rcases Outcome.getElem?_of_forall₂ _ _ _ hos n ix hix with ⟨o, ho, hprocess⟩
      rcases Outcome.getElem?_of_forall₂ _ _ _ hos' n' ix (hn.symm.trans hix) with
        ⟨o', ho', hprocess'⟩
      rcases Except.ok.inj (hprocess.symm.trans hprocess') with h
      rw [ho, ho', Option.some.inj h]

end Route

/-- Routing the requests to a program as a whole or not at all. -/
structure RoutesWhole (program : Address) (ledger : Ledger) (feePayer : Address) : Prop where
  -- The refusal is that of the first unlisted program; or else that of the signed
  -- messages; or else that of the first request that cannot be processed.
  refusal : ∀ ixs e, (route program ledger ixs feePayer).result = .error e ↔
    (∃ before ix after, ixs = before ++ ix :: after ∧
      (∀ b ∈ before, Program.isListed program b.program = true) ∧
      Program.isListed program ix.program = false ∧ e = .unlistedProgram ix.program) ∨
    ((∀ ix ∈ ixs, Program.isListed program ix.program = true) ∧ carriedMessages ixs = .error e) ∨
    ((∀ ix ∈ ixs, Program.isListed program ix.program = true) ∧
      ∃ messages, carriedMessages ixs = .ok messages ∧
        Outcome.FirstFailure
          (fun ix => (RouteContext.process ⟨program, ledger, feePayer, messages⟩ ix).result)
          (ixs.filter (·.program = program)) e)
  -- Otherwise there is one obligation for each request that does not open with an
  -- exempt operation, in the order of the transaction.
  obligations : ∀ ixs os, (route program ledger ixs feePayer).result = .ok os ↔
    (∀ ix ∈ ixs, Program.isListed program ix.program = true) ∧
      ∃ messages, carriedMessages ixs = .ok messages ∧
        List.Forall₂ (fun ix o => (RouteContext.process ⟨program, ledger, feePayer, messages⟩
            ix).result = .ok (some o))
          (ixs.filter fun ix => ix.program = program ∧ ∀ op ∈ Operation.exempt, ¬ ix.Opens op) os
  -- An obligation depends on its own instruction and on the signed messages: in
  -- another transaction with these messages it is the same, at whatever place.
  dependence : ∀ ixs ixs' messages os os', carriedMessages ixs = .ok messages →
    carriedMessages ixs' = .ok messages → (route program ledger ixs feePayer).result = .ok os →
    (route program ledger ixs' feePayer).result = .ok os' → ∀ n n' : Nat,
      (ixs.filter fun ix =>
        ix.program = program ∧ ∀ op ∈ Operation.exempt, ¬ ix.Opens op)[n]? =
      (ixs'.filter fun ix =>
        ix.program = program ∧ ∀ op ∈ Operation.exempt, ¬ ix.Opens op)[n']? → os[n]? = os'[n']?
  -- A request is refused if it is too short to open with an operation, or opens with
  -- none that is routed or exempt.
  unknown : ∀ ixs, ∀ ix ∈ ixs, ix.program = program →
    (ix.data.length < 8 ∨ ∀ op ∈ Operation.routed ++ Operation.exempt, ¬ ix.Opens op) →
    ∃ e, (route program ledger ixs feePayer).result = .error e
  -- A request that opens with an exempt operation comes to nothing, and reads nothing.
  exempt : ∀ messages ix, ∀ op ∈ Operation.exempt, ix.Opens op →
    RouteContext.process ⟨program, ledger, feePayer, messages⟩ ix = pure none

/-- Whatever the program, the fee payer and what can be read. -/
theorem route_allOrNothing (program : Address) (ledger : Ledger) (feePayer : Address) :
    RoutesWhole program ledger feePayer where
  refusal ixs e := by
    rw [route_eq_error, checkPrograms_eq_error, checkPrograms_eq_ok]
  obligations ixs os := by
    rw [route_eq_ok, checkPrograms_eq_ok, obliging_eq_filter]
  dependence ixs ixs' messages os os' hmessages hmessages' h h' n n' hn := by
    simp only [← obliging_eq_filter] at hn
    exact route_getElem?_congr program ledger ixs feePayer ixs' messages os os' hmessages
      hmessages' h h' n n' hn
  unknown ixs ix hix hprogram h := by
    refine route_of_unknown program ledger ixs feePayer ix hix hprogram fun op hop hopens => ?_
    rcases h with hshort | hnone
    · have hlong := ix.eight_le_of_opens op hopens
      omega
    · exact hnone op hop hopens
  exempt messages ix op hop h :=
    RouteContext.process_of_exempt _ ix op hop h

end Cosigner
