import Cosigner.Audit.Signers
import Cosigner.Ledger.Wallets
import Cosigner.Message.Compile
import Cosigner.Message.Wire

/-!
# Routing

Routing works out what a transaction needs authorization for. Every instruction
has to call a listed program. Each instruction of the wallet program then
becomes an obligation: the wallet it acts on, the signers that have to have
authorized it, and the instructions that they authorized with it.

A request is first reduced to a demand, which says where those three parts are
found. The wallet is either named by its settings account, which the
instruction hands over first, or by its number, and then its settings have to
exist. The instructions are either the request itself, or a message that the
request carries in one of two forms.

All instructions are looked at, even if one of them is refused.

## Main definitions

* `Demand`: What a request needs authorization for.
* `Request.demand`: The demand of a request.
* `Obligation`: What has to be authorized, by whom.
* `route`: The obligations of a transaction.
-/

namespace Cosigner

/-- How a request names the wallet that it acts on. -/
inductive WalletRef where
  /-- It acts on none. -/
  | none
  /-- By the account that it hands over first. -/
  | account
  /-- By its number. -/
  | index (index : WalletIndex)
  deriving DecidableEq

/-- What the signers of a request authorize. -/
inductive Content where
  /-- The request itself. -/
  | itself
  /-- A message in its wire form. -/
  | buffered (create : BufferCreate)
  /-- A message that is executed at once. -/
  | sync (message : SyncMessage)
  deriving DecidableEq

/-- What a request needs authorization for. -/
structure Demand where
  /-- The wallet that it acts on. -/
  wallet : WalletRef
  /-- The signed messages that authorize it. -/
  uses : List MessageUse
  /-- What they authorize. -/
  content : Content
  deriving DecidableEq

/-- The demand of a request, if it needs authorization at all. -/
def Request.demand : Request → Except Refusal (Option Demand)
  | .changeConfig a => .ok (some ⟨.account, a.uses, .itself⟩)
  | .changeConfigCompressed a => .ok (some ⟨.index a.settings.index, a.arguments.uses, .itself⟩)
  | .transferIntent a => .ok (some ⟨.account, a.use.toList, .itself⟩)
  | .transferIntentCompressed a =>
    .ok (some ⟨.index a.settings.index, a.arguments.use.toList, .itself⟩)
  | .bufferCreate a => .ok (some ⟨.account, a.use.toList, .buffered a⟩)
  | .bufferCreateCompressed a =>
    .ok (some ⟨.index a.settings.index, a.arguments.use.toList, .buffered a.arguments⟩)
  | .executeSync a => .ok (some ⟨.account, a.uses, .sync a.message⟩)
  | .executeSyncCompressed a =>
    .ok (some ⟨.index a.settings.index, a.arguments.uses, .sync a.arguments.message⟩)
  | .createUserAccounts a => .ok (some ⟨.none, a.use.toList, .itself⟩)
  | .editManagerUrl _ => .ok (some ⟨.none, [], .itself⟩)
  | .noOp _ => .ok none
  | .unrouted what => .error (.unroutedRequest what)

/-- What has to be authorized, and by whom. -/
structure Obligation where
  /-- The settings address of the wallet, if the instruction acts on one. -/
  settings : Option Address
  /-- The signers. -/
  signers : List Signer
  /-- What they authorize. -/
  instructions : List Instruction
  deriving DecidableEq

/-- How many of the signers are passkeys. -/
def Obligation.passkeyCount (o : Obligation) : Nat :=
  Signer.passkeyCount o.signers

/-- What is known while the instructions of a transaction are routed. -/
structure RouteContext where
  /-- Where the wallet program lives. -/
  program : Address
  /-- What can be read. -/
  ledger : Ledger
  /-- The account that pays for the transaction. -/
  feePayer : Address
  /-- The signed messages of the transaction. -/
  messages : List SignedMessage

/-- Refuses a buffered message that does not have its declared digest. -/
def BufferCreate.checkHash (b : BufferCreate) : Except Refusal Unit :=
  if Sha256.digest b.buffer = b.finalHash then .ok () else .error .bufferHash

/-- The instructions of a message in its wire form. -/
def bufferedInstructions (accounts : AccountStore) (buffer : Bytes) :
    Query (List Instruction) := do
  let m ← .ofExcept ((WalletMessage.decode buffer).mapError .badMessage)
  let tables ← resolveTables accounts (m.lookups.map (·.table))
  .ofExcept ((m.decompile tables).mapError .badMessage)

/-- The instructions of a message that is executed at once. -/
def syncInstructions (ix : Instruction) (m : SyncMessage) : Except Refusal (List Instruction) :=
  (m.decompile ix).mapError fun e => .malformedInstruction (.sync e)

/-- The first account of an instruction, where its settings are expected. -/
def settingsAccount (ix : Instruction) : Except Refusal Address :=
  match ix.accounts with
  | ref :: _ => .ok ref.key
  | [] => .error (.malformedInstruction (.missingAccount "settings" 0))

namespace RouteContext

/-- The settings address of the wallet that a request acts on. -/
def walletOf (c : RouteContext) (ix : Instruction) : WalletRef → Query (Option Address)
  | .none => pure none
  | .account => .ofExcept (some <$> settingsAccount ix)
  | .index index => do
    let wallet ← resolveWallet c.ledger c.program index
    return some wallet.address

/-- The wallet that a request acts on, and the instructions that its signers
    authorize. A buffered message has its digest checked before anything is
    read and is decoded last; a message that is executed at once is decompiled
    first. -/
def subject (c : RouteContext) (ix : Instruction) (wallet : WalletRef) :
    Content → Query (Option Address × List Instruction)
  | .itself => do
    return (← c.walletOf ix wallet, [ix])
  | .buffered create => do
    Query.ofExcept create.checkHash
    let settings ← c.walletOf ix wallet
    return (settings, ← bufferedInstructions c.ledger.accounts create.buffer)
  | .sync message => do
    let inner ← Query.ofExcept (syncInstructions ix message)
    return (← c.walletOf ix wallet, inner)

/-- The obligation of a demand. -/
def meet (c : RouteContext) (ix : Instruction) (d : Demand) : Query Obligation := do
  let (settings, instructions) ← c.subject ix d.wallet d.content
  let signers ← Query.ofExcept (signersOf c.feePayer c.messages ix d.uses)
  return ⟨settings, signers, instructions⟩

/-- The obligation of an instruction of the wallet program, if it has one. -/
def process (c : RouteContext) (ix : Instruction) : Query (Option Obligation) := do
  let request ← Query.ofExcept ((Request.parse ix.data).mapError .badData)
  match ← Query.ofExcept request.demand with
  | none => return none
  | some d => return some (← c.meet ix d)

end RouteContext

/-- Refuses the first instruction that calls a program that is not listed. -/
def checkPrograms (program : Address) (ixs : List Instruction) : Except Refusal Unit :=
  match ixs.find? (fun ix => !Program.isListed program ix.program) with
  | some ix => .error (.unlistedProgram ix.program)
  | none => .ok ()

/-- The signed messages of a transaction. -/
def carriedMessages (ixs : List Instruction) : Except Refusal (List SignedMessage) :=
  (signedMessages ixs).mapError fun (position, fault) =>
    .malformedInstruction (.signatures position fault)

/-- The obligations of a transaction, in the order of its instructions. -/
def route (program : Address) (ledger : Ledger) (ixs : List Instruction) (feePayer : Address) :
    Query (List Obligation) := do
  Query.ofExcept (checkPrograms program ixs)
  let messages ← Query.ofExcept (carriedMessages ixs)
  let context : RouteContext := ⟨program, ledger, feePayer, messages⟩
  let outcomes ← Query.forAll (ixs.filter (·.program = program)) context.process
  return outcomes.filterMap id

end Cosigner
