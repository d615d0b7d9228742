import Cosigner.Proofs.Audit.Buffered

/-!
# Buffers Are Bound to Their Digest

A buffer is filled over several transactions, and whoever authorizes it does so
by its digest. The instruction that creates it carries both, the bytes and the
digest that they are to have. If these do not belong together, then nothing else
about the instruction counts: not its accounts, not the signed messages beside
it, not what any ledger says. Several other things can be wrong with such an
instruction, and some of them depend on the rest of the transaction, so it
matters that the digest is looked at before all of them. It is in fact looked at
before anything is read.

The other way round, an instruction that comes out with an obligation has passed
every step. `BufferCreate.Holds` names them, one field each. Since a message has
one wire form and a wire form has one message, the digest stands for exactly one
list of instructions, as far as the tables on chain go.

## Main definitions

* `Request.CreatesBuffer`: A request that creates a buffer.
* `BufferCreate.Holds`: Everything that ties a buffer to instructions.

## Theorems

* `BufferCreate.holds_iff`: What the signers of a buffer are asked to authorize.
* `RouteContext.process_wrongDigest`: A wrong digest is refused before all else.
* `RouteContext.process_boundToDigest`: What an instruction that creates a buffer
  can come out with.
-/

namespace Cosigner

/-- A request that creates a buffer, for a wallet with an account of its own or
    with compressed settings. -/
def Request.CreatesBuffer (r : Request) (wallet : WalletRef) (create : BufferCreate) : Prop :=
  (wallet = .account ∧ r = .bufferCreate create) ∨
    ∃ settings proof, wallet = .index settings.index ∧
      r = .bufferCreateCompressed ⟨settings, create, proof⟩

theorem Request.CreatesBuffer.demand {r : Request} {wallet : WalletRef} {create : BufferCreate}
    (h : r.CreatesBuffer wallet create) :
    r.demand = .ok (some ⟨wallet, create.use.toList, .buffered create⟩) := by
  rcases h with ⟨rfl, rfl⟩ | ⟨settings, proof, rfl, rfl⟩
  · rfl
  · rfl

/-- A buffer holds a message with its declared digest, and the message stands for
    instructions. -/
structure BufferCreate.Holds (accounts : AccountStore) (create : BufferCreate)
    (m : WalletMessage) (tables : List LookupTable) (instructions : List Instruction) : Prop where
  -- The bytes have the digest that is declared.
  digest : Sha256.digest create.buffer = create.finalHash
  -- The bytes spell the message, and no other message is written like that.
  spelled : WalletMessage.decode create.buffer = .ok m
  unique : ∀ m' : WalletMessage, m'.encode = .ok create.buffer → m' = m
  -- Every table that the message loads from is on chain or the project's own.
  resolved : (resolveTables accounts (m.lookups.map (·.table))).result = .ok tables
  onChain : ∀ lookup ∈ m.lookups, ∃ t ∈ tables, t.key = lookup.table ∧ t.OnChain accounts
  -- With these tables the message decompiles to the instructions.
  decompiled : m.decompile tables = .ok instructions

theorem BufferCreate.checkHash_eq_ok (create : BufferCreate) :
    create.checkHash = .ok () ↔ Sha256.digest create.buffer = create.finalHash := by
  unfold checkHash
  rw [Outcome.ite_else_error_eq_ok, and_iff_left rfl]

/-- What is in a buffer with the right digest. -/
theorem BufferCreate.holds_iff (accounts : AccountStore) (create : BufferCreate)
    (instructions : List Instruction) :
    create.checkHash = .ok () ∧
        (bufferedInstructions accounts create.buffer).result = .ok instructions ↔
      ∃ m tables, create.Holds accounts m tables instructions := by
  simp only [checkHash_eq_ok, bufferedInstructions, Query.result_bind_eq_ok,
    Query.result_ofExcept, Outcome.mapError_eq_ok]
  constructor
  · intro h
    rcases h with ⟨hdigest, m, hdecode, tables, htables, hdecompile⟩
    refine ⟨m, tables, hdigest, hdecode, fun m' hencode => ?_, htables, fun lookup hlookup => ?_,
      hdecompile⟩
    · -- What is written as these bytes is what they are read as.
      have hdecode' := (m'.encode_eq_ok_iff create.buffer).mp hencode
      exact Except.ok.inj (hdecode'.symm.trans hdecode)
    · exact exists_mem_resolveTables accounts _ tables htables lookup.table
        (List.mem_map_of_mem hlookup)
  · intro h
    rcases h with ⟨m, tables, h⟩
    exact ⟨h.digest, m, h.spelled, tables, h.resolved, h.decompiled⟩

namespace RouteContext

variable (c : RouteContext) (ix : Instruction) (request : Request) (wallet : WalletRef)
  (create : BufferCreate) (hparse : Request.parse ix.data = .ok request)
  (hrequest : request.CreatesBuffer wallet create)

include hparse hrequest

/-- A wrong digest is the reason for the refusal, whatever else there is to
    complain about, and nothing is read. -/
theorem process_wrongDigest (h : Sha256.digest create.buffer ≠ create.finalHash) :
    c.process ix = .refuse .bufferHash := by
  have hcheck : create.checkHash = .error .bufferHash := if_neg h
  simp only [process, hparse, Except.mapError, Query.ofExcept_ok_bind, hrequest.demand, meet,
    subject, hcheck, Query.ofExcept_error_bind]
  rfl

/-- An instruction whose arguments decode to the creation of a buffer, whatever its
    accounts, the signed messages and the ledger are: with a wrong digest it is
    refused for the digest. It is accepted exactly if the digest is right, the
    buffer holds a message that stands for the instructions of the obligation, the
    wallet is known and the signers are found. -/
theorem process_boundToDigest :
    (Sha256.digest create.buffer ≠ create.finalHash → c.process ix = .refuse .bufferHash) ∧
      ∀ outcome, (c.process ix).result = .ok outcome ↔ ∃ o, outcome = some o ∧
        (∃ m tables, create.Holds c.ledger.accounts m tables o.instructions) ∧
        (c.walletOf ix wallet).result = .ok o.settings ∧
        signersOf c.feePayer c.messages ix create.use.toList = .ok o.signers := by
  refine ⟨c.process_wrongDigest ix request wallet create hparse hrequest, fun outcome => ?_⟩
  cases outcome with
  | none =>
      -- Only a no-op comes out with nothing.
      rw [c.process_eq_none, ix.isNoOp_of_demand request _ hparse hrequest.demand]
      simp only [Bool.false_eq_true, reduceCtorEq, false_and, exists_false]
  | some o =>
      simp only [c.process_buffered_eq_ok ix request wallet create hparse hrequest.demand o,
        Option.some.injEq, exists_eq_left', ← create.holds_iff]
      constructor
      · intro h
        rcases h with ⟨⟨hdigest, hwallet, hinstructions⟩, hsigners⟩
        exact ⟨⟨hdigest, hinstructions⟩, hwallet, hsigners⟩
      · intro h
        rcases h with ⟨⟨hdigest, hinstructions⟩, hwallet, hsigners⟩
        exact ⟨⟨hdigest, hwallet, hinstructions⟩, hsigners⟩

end RouteContext

/-- A buffer with a message that loads a key from a table, for a wallet with compressed
    settings. With one more byte in it, it is refused for its digest, although there
    is no such wallet, no such signed message and no account at all. As declared, and
    for a wallet with an account of its own, it is accepted. -/
theorem RouteContext.process_boundToDigest_extraByte :
    let key (n : UInt8) : Address := Octets.replicate 32 n
    let m : WalletMessage := {
      header := ⟨1, 1, 0⟩
      keys := [key 1, key 9]
      instructions := [⟨1, [0, 2], [7]⟩]
      lookups := [⟨key 20, [1], []⟩] }
    let create : BufferCreate := {
      bufferIndex := 0
      preauthorize := false
      finalHash := Sha256.digest (WalletMessage.codec.encode m)
      finalSize := 0
      buffer := WalletMessage.codec.encode m
      use := none }
    let longer : BufferCreate := {
      create with
      buffer := create.buffer ++ [0]
      use := some ⟨3, 0⟩ }
    let data : Bytes :=
      [1, 0, 0, 0] ++ List.replicate 52 0 ++ (key 4).toBytes ++ (key 3).toBytes
    let c : RouteContext := {
      program := Program.wallet
      ledger := {
        accounts := fun a => if a = key 20 then .ok (some data) else .error "unreachable"
        compressed := fun _ => .error "unreachable" }
      feePayer := key 1
      messages := [] }
    let refused : Instruction := ⟨Program.wallet, [],
      Operation.transactionBufferCreateCompressed.encode .bufferCreateCompressed
        ⟨⟨5, 0, 0, 0, 0⟩, longer, none⟩⟩
    let accepted : Instruction := ⟨Program.wallet, [⟨key 30, .plain⟩, ⟨key 31, ⟨true, false⟩⟩],
      Operation.transactionBufferCreate.encode .bufferCreate create⟩
    let o : Obligation := {
      settings := some (key 30)
      signers := [.plain (key 31)]
      instructions := [⟨key 9, [⟨key 1, .payer⟩, ⟨key 3, ⟨false, true⟩⟩], [7]⟩] }
    c.process refused = .refuse .bufferHash ∧ (c.process accepted).result = .ok (some o) ∧
      ∃ m tables, create.Holds c.ledger.accounts m tables o.instructions := by
  intro key m create longer data c refused accepted o
  have hrefused : Request.parse refused.data
      = .ok (.bufferCreateCompressed ⟨⟨5, 0, 0, 0, 0⟩, longer, none⟩) := by decide +kernel
  have haccepted : Request.parse accepted.data = .ok (.bufferCreate create) := by decide +kernel
  have hdigest : Sha256.digest longer.buffer ≠ longer.finalHash := by decide +kernel
  have hresult : (c.process accepted).result = .ok (some o) := by decide +kernel
  refine ⟨?_, hresult, ?_⟩
  · exact (process_boundToDigest c refused _ _ longer hrefused
      (.inr ⟨⟨5, 0, 0, 0, 0⟩, none, rfl, rfl⟩)).1 hdigest
  · rcases ((process_boundToDigest c accepted _ _ create haccepted (.inl ⟨rfl, rfl⟩)).2 _).mp
      hresult with ⟨_, ho, hholds, _⟩
    rw [Option.some.inj ho]
    exact hholds

end Cosigner
