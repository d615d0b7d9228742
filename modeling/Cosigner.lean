import Cosigner.Address
import Cosigner.Audit.Approval
import Cosigner.Audit.Route
import Cosigner.Audit.Signers
import Cosigner.Audit.Transaction
import Cosigner.Audit.Verify
import Cosigner.Client.Cache
import Cosigner.Client.Document
import Cosigner.Client.Request
import Cosigner.Client.WebAddress
import Cosigner.Codec
import Cosigner.Config
import Cosigner.Crypto.Ed25519
import Cosigner.Crypto.Keccak
import Cosigner.Crypto.Modular
import Cosigner.Crypto.P256
import Cosigner.Crypto.Sha2
import Cosigner.Instruction
import Cosigner.Json.Basic
import Cosigner.Json.Numeral
import Cosigner.Json.Printer
import Cosigner.Json.Reader
import Cosigner.Json.Record
import Cosigner.Ledger.Query
import Cosigner.Ledger.Retry
import Cosigner.Ledger.Tables
import Cosigner.Ledger.Wallets
import Cosigner.Message.Basic
import Cosigner.Message.Compile
import Cosigner.Message.KeySpace
import Cosigner.Message.Native
import Cosigner.Message.Roster
import Cosigner.Message.Wire
import Cosigner.Octets
import Cosigner.Passkey.Assertion
import Cosigner.Passkey.Response
import Cosigner.Passkey.SignedMessage
import Cosigner.Passkey.Token
import Cosigner.Passkey.WebKey
import Cosigner.Refusal
import Cosigner.Text.Base58
import Cosigner.Text.Base64
import Cosigner.Text.Digits
import Cosigner.Text.Hidden
import Cosigner.Text.Quoted
import Cosigner.Text.Utf8
import Cosigner.Wallet.Arguments
import Cosigner.Wallet.Layout
import Cosigner.Wallet.Operation
import Cosigner.Wallet.Program
import Cosigner.Wallet.Request
import Cosigner.Wallet.Settings
import Cosigner.Wallet.Sync
import Cosigner.Proofs.Audit.Acceptance
import Cosigner.Proofs.Audit.BufferDigest
import Cosigner.Proofs.Audit.Buffered
import Cosigner.Proofs.Audit.Dealing
import Cosigner.Proofs.Audit.Identity
import Cosigner.Proofs.Audit.Layers
import Cosigner.Proofs.Audit.Lookups
import Cosigner.Proofs.Audit.PlainSigners
import Cosigner.Proofs.Audit.Positions
import Cosigner.Proofs.Audit.Precedence
import Cosigner.Proofs.Audit.Routing
import Cosigner.Proofs.Audit.SignerList
import Cosigner.Proofs.Client.Cache
import Cosigner.Proofs.Client.History
import Cosigner.Proofs.Codec
import Cosigner.Proofs.Codec.Truncation
import Cosigner.Proofs.Json.Number
import Cosigner.Proofs.Json.Record
import Cosigner.Proofs.Json.RoundTrip
import Cosigner.Proofs.Json.Text
import Cosigner.Proofs.Ledger.Retry
import Cosigner.Proofs.Ledger.Rounds
import Cosigner.Proofs.Ledger.TableSet
import Cosigner.Proofs.Ledger.Tables
import Cosigner.Proofs.Ledger.Wallets
import Cosigner.Proofs.Message.Capacity
import Cosigner.Proofs.Message.Conservation
import Cosigner.Proofs.Message.Decompile
import Cosigner.Proofs.Message.Delimited
import Cosigner.Proofs.Message.Extraction
import Cosigner.Proofs.Message.Indexing
import Cosigner.Proofs.Message.Layout
import Cosigner.Proofs.Message.Native
import Cosigner.Proofs.Message.Rearranged
import Cosigner.Proofs.Message.Recompile
import Cosigner.Proofs.Message.Roles
import Cosigner.Proofs.Message.Roster
import Cosigner.Proofs.Message.RoundTrip
import Cosigner.Proofs.Message.Unchecked
import Cosigner.Proofs.Message.WellFormed
import Cosigner.Proofs.Message.Wire
import Cosigner.Proofs.Message.WireLimits
import Cosigner.Proofs.Outcome
import Cosigner.Proofs.Passkey.Binding
import Cosigner.Proofs.Passkey.Challenge
import Cosigner.Proofs.Passkey.References
import Cosigner.Proofs.Passkey.Response
import Cosigner.Proofs.Passkey.SignedMessage
import Cosigner.Proofs.Passkey.Token
import Cosigner.Proofs.Text.Base64
import Cosigner.Proofs.Text.Sextets
import Cosigner.Proofs.Text.Utf8
import Cosigner.Proofs.Wallet.Arguments
import Cosigner.Proofs.Wallet.Derivation
import Cosigner.Proofs.Wallet.Request
import Cosigner.Proofs.Wallet.Settings
import Cosigner.Proofs.Wallet.Sync
import Cosigner.Proofs.Wallet.Window
