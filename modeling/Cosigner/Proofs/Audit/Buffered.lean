import Cosigner.Proofs.Audit.Routing
import Cosigner.Proofs.Ledger.Tables
import Cosigner.Proofs.Message.WellFormed
import Cosigner.Proofs.Message.Wire
import Cosigner.Proofs.Wallet.Request

/-!
# Buffered Messages

A wallet transaction that is too large for one transaction is put into a buffer
on chain. The user compiles instructions into a message and puts its wire form
into the arguments of the instruction that creates the buffer. The co-signer
goes the other way: it reads the arguments, checks the digest, reads the
message, resolves the tables that the message loads from and decompiles it.

Each step back undoes a step forth, and all of them have been looked at on their
own. Here they are joined. As long as the ledger answers with the tables that
the compilation loaded keys from, the instructions that the co-signer asks
signatures for are those that the user compiled, up to roles, which a message
merges. A table that was at hand and not used does not matter, not even if it
claims the address of one that was.

## Main definitions

* `Instruction.CreatesBuffer`: An instruction that creates a buffer.

## Theorems

* `bufferedInstructions_compiled`: What a compiled message comes back as.
* `RouteContext.subject_buffered_eq_ok`, `RouteContext.process_buffered_eq_ok`: What
  the signers of a buffer authorize, and what the obligation is made of.
* `route_getElem?`: The obligation of an instruction at a place.
* `RouteContext.process_compiledBuffer`: When an instruction that buffers a
  compiled message is accepted.
* `route_compiledBuffer`: The obligation of an instruction that buffers a compiled
  message.
-/

namespace Cosigner

/-- An instruction whose data is written to create a buffer, for a wallet with an
    account of its own or with compressed settings. -/
def Instruction.CreatesBuffer (ix : Instruction) (wallet : WalletRef) (create : BufferCreate) :
    Prop :=
  (wallet = .account ∧ ix.data = Operation.transactionBufferCreate.encode .bufferCreate create) ∨
    ∃ settings proof, wallet = .index settings.index ∧
      ix.data = Operation.transactionBufferCreateCompressed.encode .bufferCreateCompressed
        ⟨settings, create, proof⟩

/-- The request of an instruction that creates a buffer demands what is in the
    buffer. -/
theorem Instruction.CreatesBuffer.demand {ix : Instruction} {wallet : WalletRef}
    {create : BufferCreate} (h : ix.CreatesBuffer wallet create)
    (hlength : create.buffer.length < 256 ^ 4) :
    ∃ request, Request.parse ix.data = .ok request ∧
      request.demand = .ok (some ⟨wallet, create.use.toList, .buffered create⟩) := by
  rcases h with ⟨rfl, hdata⟩ | ⟨settings, proof, rfl, hdata⟩
  · rw [hdata]
    exact ⟨.bufferCreate create, Request.parse_encode _ .bufferCreate rfl create hlength, rfl⟩
  · rw [hdata]
    exact ⟨.bufferCreateCompressed ⟨settings, create, proof⟩,
      Request.parse_encode _ .bufferCreateCompressed rfl _ hlength, rfl⟩

/-- A request with a demand is no no-op. -/
theorem Instruction.isNoOp_of_demand (ix : Instruction) (request : Request) (d : Demand)
    (hparse : Request.parse ix.data = .ok request) (hdemand : request.demand = .ok (some d)) :
    ix.isNoOp = false := by
  unfold isNoOp
  rw [hparse]
  cases request with
  | noOp op =>
      exact absurd hdemand
        (by simp only [Request.demand, Except.ok.injEq, reduceCtorEq, not_false_eq_true])
  | _ => rfl

/-- The wire form of a compiled message comes back as the compiled instructions
    with merged roles, if the ledger answers with the tables that the message
    loads from. -/
theorem bufferedInstructions_compiled (accounts : AccountStore) (payer : Address)
    (inner : List Instruction) (tables : List LookupTable) (m : WalletMessage) (bytes : Bytes)
    (hcompile : WalletMessage.compile payer inner tables = .ok m)
    (hencode : m.encode = .ok bytes)
    (htables : ∀ lookup ∈ m.lookups, ∀ table, table.key = lookup.table →
      LoadsFrom payer inner tables table → table.OnChain accounts) :
    (bufferedInstructions accounts bytes).result
      = .ok (inner.map (Instruction.merged payer inner)) := by
  have hloads := WalletMessage.forall₂_loads payer inner tables m hcompile
  -- Every loading is from a table on chain, and some lookup is of the table.
  have hloading : ∀ loading ∈ WalletMessage.loadings payer inner tables,
      loading.table.key ∈ m.lookups.map (·.table) ∧
        (resolveTable accounts loading.table.key).result = .ok loading.table := by
    intro loading hmem
    rcases Outcome.mem_of_forall₂_right _ _ _ hloads loading hmem with ⟨lookup, hlookup, hl⟩
    have honChain := htables lookup hlookup loading.table hl.named.symm
      (WalletMessage.loadsFrom_of_loadings payer inner tables loading hmem)
    exact ⟨List.mem_map.mpr ⟨lookup, hlookup, hl.named⟩, honChain.resolveTable⟩
  have hall : ∀ key ∈ m.lookups.map (·.table), ∃ t, (resolveTable accounts key).result = .ok t := by
    intro key hkey
    rcases List.mem_map.mp hkey with ⟨lookup, hlookup, rfl⟩
    rcases Outcome.mem_of_forall₂_right _ _ _ hloads.flip lookup hlookup with ⟨loading, hmem, hl⟩
    rw [hl.named]
    exact ⟨loading.table, (hloading loading hmem).2⟩
  rcases (resolveTables_isOk accounts _).mpr hall with ⟨ts, hts⟩
  have hdecompile := WalletMessage.decompile_of_loadings payer inner tables ts m hcompile
    fun loading hmem => addresses?_resolveTables accounts _ ts hts loading.table.key
      (hloading loading hmem).1 loading.table (hloading loading hmem).2
  simp only [bufferedInstructions, Query.result_bind_eq_ok, Query.result_ofExcept,
    Outcome.mapError_eq_ok]
  exact ⟨m, (m.encode_eq_ok_iff bytes).mp hencode, ts, hts, hdecompile⟩

namespace RouteContext

/-- The signers of a buffer authorize what is in it, once its digest is right. -/
theorem subject_buffered_eq_ok (c : RouteContext) (ix : Instruction) (wallet : WalletRef)
    (create : BufferCreate) (settings : Option Address) (found : List Instruction) :
    (c.subject ix wallet (.buffered create)).result = .ok (settings, found) ↔
      create.checkHash = .ok () ∧ (c.walletOf ix wallet).result = .ok settings ∧
        (bufferedInstructions c.ledger.accounts create.buffer).result = .ok found := by
  simp only [subject, Query.result_bind_eq_ok, Query.result_ofExcept, Query.result_pure,
    Except.ok.injEq, Prod.mk.injEq]
  constructor
  · intro h
    rcases h with ⟨_, hhash, s, hs, is, his, rfl, rfl⟩
    exact ⟨hhash, hs, his⟩
  · intro h
    rcases h with ⟨hhash, hs, his⟩
    exact ⟨(), hhash, settings, hs, found, his, rfl, rfl⟩

/-- A request that demands what is in a buffer is met with everything that the
    obligation is made of. -/
theorem process_buffered_eq_ok (c : RouteContext) (ix : Instruction) (request : Request)
    (wallet : WalletRef) (create : BufferCreate) (hparse : Request.parse ix.data = .ok request)
    (hdemand : request.demand = .ok (some ⟨wallet, create.use.toList, .buffered create⟩))
    (o : Obligation) :
    (c.process ix).result = .ok (some o) ↔
      (create.checkHash = .ok () ∧ (c.walletOf ix wallet).result = .ok o.settings ∧
        (bufferedInstructions c.ledger.accounts create.buffer).result = .ok o.instructions) ∧
      signersOf c.feePayer c.messages ix create.use.toList = .ok o.signers := by
  simp only [c.process_eq_some, hparse, Except.ok.injEq, exists_and_left, exists_eq_left',
    hdemand, Option.some.injEq, c.meet_eq_ok, c.subject_buffered_eq_ok]

end RouteContext

/-- The obligation of an instruction at a place. It is preceded by those of the
    instructions in front of it. -/
theorem route_getElem? (program : Address) (ledger : Ledger) (before after : List Instruction)
    (ix : Instruction) (feePayer : Address) (os : List Obligation)
    (h : (route program ledger (before ++ ix :: after) feePayer).result = .ok os)
    (hprogram : ix.program = program) (hnoop : ix.isNoOp = false) :
    ∃ c o, c.ledger = ledger ∧ os[(obliging program before).length]? = some o ∧
      (RouteContext.process c ix).result = .ok (some o) := by
  rcases (route_eq_ok _ _ _ _ _).mp h with ⟨_, messages, _, hall⟩
  have hplace : (obliging program (before ++ ix :: after))[(obliging program before).length]?
      = some ix := by
    simp only [obliging, List.filter_append, List.filter_cons, hprogram, hnoop, decide_true,
      Bool.not_false, Bool.and_self, if_true, List.getElem?_append_right (Nat.le_refl _),
      Nat.sub_self, List.getElem?_cons_zero]
  rcases Outcome.getElem?_of_forall₂ _ _ _ hall _ ix hplace with ⟨o, ho, hprocess⟩
  exact ⟨_, o, rfl, ho, hprocess⟩

section CompiledBuffer

variable (payer : Address) (inner : List Instruction) (tables : List LookupTable)
  (m : WalletMessage) (ledger : Ledger) (wallet : WalletRef) (create : BufferCreate)
  (ix : Instruction)

/-- An instruction that buffers a compiled message can be refused for its wallet
    or its signers, and otherwise it is about the compiled instructions. -/
theorem RouteContext.process_compiledBuffer (c : RouteContext)
    (hcompile : WalletMessage.compile payer inner tables = .ok m)
    (hbuffer : m.encode = .ok create.buffer)
    (hhash : create.finalHash = Sha256.digest create.buffer)
    (htables : ∀ lookup ∈ m.lookups, ∀ table, table.key = lookup.table →
      LoadsFrom payer inner tables table → table.OnChain c.ledger.accounts)
    (hix : ix.CreatesBuffer wallet create) (o : Obligation) :
    (c.process ix).result = .ok (some o) ↔
      (c.walletOf ix wallet).result = .ok o.settings ∧
        signersOf c.feePayer c.messages ix create.use.toList = .ok o.signers ∧
        o.instructions = inner.map (Instruction.merged payer inner) := by
  have hcheck : create.checkHash = .ok () := by
    rw [BufferCreate.checkHash, if_pos hhash.symm]
  have hinner := bufferedInstructions_compiled c.ledger.accounts payer inner tables m _ hcompile
    hbuffer htables
  rcases hix.demand (m.length_lt_of_encode _ hbuffer) with ⟨request, hparse, hdemand⟩
  rw [c.process_buffered_eq_ok ix request wallet create hparse hdemand o, hinner]
  simp only [hcheck, true_and, Except.ok.injEq]
  rw [and_assoc, and_comm (a := signersOf _ _ _ _ = _), eq_comm (a := o.instructions)]

/-- What the compiler buffers is what the signers are asked to authorize. Wherever
    an instruction stands that creates a buffer with the wire form of a compiled
    message: if the transaction is routed at all, the obligation of the
    instruction is about the compiled instructions, with the same programs, data
    and accounts in the same order, each account with the flags that the payer
    and all compiled instructions together ask for on its key. -/
theorem route_compiledBuffer (program : Address) (before after : List Instruction)
    (feePayer : Address) (os : List Obligation)
    (hcompile : WalletMessage.compile payer inner tables = .ok m)
    (hbuffer : m.encode = .ok create.buffer)
    (hhash : create.finalHash = Sha256.digest create.buffer)
    (htables : ∀ lookup ∈ m.lookups, ∀ table, table.key = lookup.table →
      LoadsFrom payer inner tables table → table.OnChain ledger.accounts)
    (hprogram : ix.program = program) (hix : ix.CreatesBuffer wallet create)
    (hroute : (route program ledger (before ++ ix :: after) feePayer).result = .ok os) :
    ∃ o, os[(obliging program before).length]? = some o ∧
      o.instructions = inner.map (Instruction.merged payer inner) := by
  rcases hix.demand (m.length_lt_of_encode _ hbuffer) with ⟨request, hparse, hdemand⟩
  have hnoop := ix.isNoOp_of_demand request _ hparse hdemand
  rcases route_getElem? program ledger before after ix feePayer os hroute hprogram hnoop with
    ⟨c, o, rfl, ho, hprocess⟩
  exact ⟨o, ho, ((c.process_compiledBuffer payer inner tables m wallet create ix hcompile hbuffer
    hhash htables hix o).mp hprocess).2.2⟩

end CompiledBuffer

/-- A buffered message that loads one key from a table on chain and one from the
    project's own table, behind a note in the same transaction. A third table is
    listed under the address of the first with other entries, but nothing is loaded
    from it. The account that the buffered instruction names without flags comes
    back with them, since it pays. -/
theorem route_compiledBuffer_twoTables :
    let key (n : UInt8) : Address := Octets.replicate 32 n
    let inner : List Instruction := [
      ⟨key 9, [⟨key 1, .plain⟩, ⟨key 3, ⟨false, true⟩⟩, ⟨Program.token, .plain⟩], [7]⟩]
    let tables : List LookupTable := [
      ⟨key 20, [key 4, key 3]⟩, ⟨Program.pinnedTable, Program.pinnedAddresses⟩,
      ⟨key 20, [key 5]⟩]
    let m : WalletMessage := {
      header := ⟨1, 1, 0⟩
      keys := [key 1, key 9]
      instructions := [⟨1, [0, 2, 3], [7]⟩]
      lookups := [⟨key 20, [1], []⟩, ⟨Program.pinnedTable, [], [7]⟩] }
    let create : BufferCreate := {
      bufferIndex := 0
      preauthorize := false
      finalHash := Sha256.digest (WalletMessage.codec.encode m)
      finalSize := 0
      buffer := WalletMessage.codec.encode m
      use := none }
    let data : Bytes :=
      [1, 0, 0, 0] ++ List.replicate 52 0 ++ (key 4).toBytes ++ (key 3).toBytes
    let ledger : Ledger := {
      accounts := fun a => if a = key 20 then .ok (some data) else .error "unreachable"
      compressed := fun _ => .error "unreachable" }
    let note : Instruction := ⟨Program.memo, [], [1]⟩
    let ix : Instruction := ⟨Program.wallet, [⟨key 30, .plain⟩, ⟨key 31, ⟨true, false⟩⟩],
      Operation.transactionBufferCreate.encode .bufferCreate create⟩
    let os : List Obligation := [⟨some (key 30), [.plain (key 31)], [
      ⟨key 9, [⟨key 1, .payer⟩, ⟨key 3, ⟨false, true⟩⟩, ⟨Program.token, .plain⟩], [7]⟩]⟩]
    WalletMessage.compile (key 1) inner tables = .ok m ∧ m.encode = .ok create.buffer ∧
      (route Program.wallet ledger [note, ix] (key 1)).result = .ok os ∧
      ∃ o, os[0]? = some o ∧ o.instructions = inner.map (Instruction.merged (key 1) inner) := by
  intro key inner tables m create data ledger note ix os
  have hcompile : WalletMessage.compile (key 1) inner tables = .ok m := by decide +kernel
  have hencode : m.encode = .ok create.buffer := by decide +kernel
  have hroute : (route Program.wallet ledger [note, ix] (key 1)).result = .ok os := by
    decide +kernel
  have hdata : LookupTable.ofAccountData data = .ok [key 4, key 3] := by decide +kernel
  have hunmentioned : key 5 ∉ mentionedKeys (key 1) inner := by decide +kernel
  have htables : ∀ table, LoadsFrom (key 1) inner tables table →
      table.OnChain ledger.accounts := by
    intro table hfrom
    rcases List.mem_cons.mp hfrom.mem with rfl | hrest
    · exact ⟨data, rfl, hdata⟩
    rcases List.mem_cons.mp hrest with rfl | hrest
    · rfl
    · rw [List.mem_singleton.mp hrest] at hfrom
      rcases hfrom with ⟨_, _, _, held, hmentioned, _, _, hheld⟩
      rw [List.mem_singleton.mp hheld] at hmentioned
      exact absurd hmentioned hunmentioned
  exact ⟨hcompile, hencode, hroute, route_compiledBuffer (key 1) inner tables m ledger .account
    create ix Program.wallet [note] [] (key 1) os hcompile hencode rfl
    (fun _ _ table _ => htables table) rfl (.inl ⟨rfl, rfl⟩) hroute⟩

end Cosigner
