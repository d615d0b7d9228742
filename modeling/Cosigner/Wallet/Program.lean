import Cosigner.Address

/-!
# Programs and Fixed Addresses

The addresses that the co-signer knows by heart. `wallet` is where the wallet
program usually lives; another address can be configured, so it is passed
wherever it matters.

A transaction is co-signed only if every program it calls directly is listed:
the wallet program and four programs that cannot move funds on their own.

The contents of the project's own lookup table are fixed here, so that no node
has to be trusted for them.

## Main definitions

* `Program.isListed`: Whether a program may be called in a co-signed transaction.
* `Program.pinnedTable`, `Program.pinnedAddresses`: The project's lookup table.
-/

namespace Cosigner

namespace Program

/-- `reviR1xysEChySVSWGa43a6oJ2boJYTJhwRZCZwyHnR`, the wallet program. -/
def wallet : Address :=
  .ofNatBE 32 0x0cb857c386f944ed169643de0e71008b8f8fb23ef22d5fe09528ac69c61f1b6a

/-- `11111111111111111111111111111111`, the system program. -/
def system : Address :=
  .ofNatBE 32 0

/-- `ComputeBudget111111111111111111111111111111`, which sets compute limits. -/
def computeBudget : Address :=
  .ofNatBE 32 0x0306466fe5211732ffecadba72c39be7bc8ce5bbc5f7126b2c439b3a40000000

/-- `MemoSq4gqABAXKb96qnH8TysNcWxMyWCqXgDLGmfcHr`, which records a note. -/
def memo : Address :=
  .ofNatBE 32 0x054a535a992921064d24e87160da387c7c35b5ddbc92bb81e41fa8404105448d

/-- `Secp256r1SigVerify1111111111111111111111111`, which checks passkey
    signatures on chain. -/
def passkeyVerifier : Address :=
  .ofNatBE 32 0x06920dec2fea71b5b723814d742da9031c83e75fdb795d568e75478020000000

/-- `Sysvar1nstructions1111111111111111111111111`, the transaction's own
    instructions. -/
def instructionsSysvar : Address :=
  .ofNatBE 32 0x06a7d517187bd16635dad40455fdc2c0c124c68f215675a5dbbacb5f08000000

/-- `SysvarS1otHashes111111111111111111111111111`, the recent slot hashes. -/
def slotHashesSysvar : Address :=
  .ofNatBE 32 0x06a7d517192f0aafc6f265e3fb77cc7ada82c529d0be3b136e2d005520000000

/-- `TokenkegQfeZyiNwAJbNbGKPFXCWuBvf9Ss623VQ5DA`, the token program. -/
def token : Address :=
  .ofNatBE 32 0x06ddf6e1d765a193d9cbe146ceeb79ac1cb485ed5f5b37913a8cf5857eff00a9

/-- `TokenzQdBNbLqP5VEhdkAS6EPFLC1PHnBqCXEpPxuEb`, the second token program. -/
def token2022 : Address :=
  .ofNatBE 32 0x06ddf6e1ee758fde18425dbce46ccddab61afc4d83b90d27febdf928d8a18bfc

/-- `ATokenGPvbdGVxr1b2hvZbsiqW5xWH25efTNsLJA8knL`, which creates token
    accounts. -/
def associatedToken : Address :=
  .ofNatBE 32 0x8c97258f4e2489f1bb3d1029148e0d830b5a1399daff1084048e7bd8dbe9f859

/-- `SySTEM1eSU2p4BGQfQpimFEWWSC1XDFeun3Nqzz3rT7`, the system program of
    compressed accounts. -/
def lightSystem : Address :=
  .ofNatBE 32 0x06a755f82139054d4424b15af0c430cf2f4b7f98793ada1252d48f3666c6cbce

/-- `compr6CUsB5m2jS4Y3831ztGSTnDpnKJTKS95d64XVq`, which compresses accounts. -/
def accountCompression : Address :=
  .ofNatBE 32 0x092c36ec22f5178300fdb44aaa6affcff0a46e1cbc641c0e3ed09da13b9ef508

/-- `noopb9bkMVfRPU8AsbpTUg8AQkHtKwMYZiFUjNRtMmV`, which does nothing. -/
def noop : Address :=
  .ofNatBE 32 0x0bbc0fc0bb47ca2f74c4112e94ab13cfa3c634e5dc17eacb03cd1a23cd7e787c

/-- `amt2kaJA14v3urZbZvnc5v2np8jqvc4Z8zDep5wbtzx`, the tree that holds the
    addresses of compressed settings. -/
def addressTree : Address :=
  .ofNatBE 32 0x08a6e998b05fe92b98a0d9f779d9dbe8b2f3eef67813287beba52649809168bd

/-- `ALTmH6tXX4cMNNGmkBR9kVATcUg2fmRF6Nn1wWcpgPSa`, the project's lookup
    table. -/
def pinnedTable : Address :=
  .ofNatBE 32 0x8ab57aac3a6a6bc54d0657ccabc71afdd3d50d9ff6f0a5f122c0b9430c68380b

/-- The entries of the project's lookup table. The table only ever grows at its
    end. -/
def pinnedAddresses : List Address :=
  [wallet, system, computeBudget, memo, passkeyVerifier, instructionsSysvar, slotHashesSysvar,
    token, token2022, associatedToken, lightSystem, accountCompression, noop, addressTree]

/-- Whether a program may be called directly in a co-signed transaction, where
    the wallet program lives at `walletProgram`. -/
def isListed (walletProgram program : Address) : Bool :=
  program = walletProgram || program = system || program = computeBudget
    || program = passkeyVerifier || program = memo

end Program

end Cosigner
