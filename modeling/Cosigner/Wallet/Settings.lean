import Cosigner.Wallet.Operation
import Cosigner.Wallet.Program

/-!
# Wallet Settings

A wallet is configured by its settings: who its members are, what each of them
may do, and how many have to agree. A member is known by a key, either an
Ed25519 address or a passkey, stored in one form with a tag in front.

Settings live in an account of their own or in compressed state. The account has
a discriminator in front and may be larger than its contents; compressed data is
the bare body. Either way bytes after the body are ignored.

The three addresses that belong to a wallet are derived here from its index.

## Main definitions

* `MemberKey`, `Member`: Who may act for a wallet.
* `Settings`: The settings of a wallet.
* `Settings.ofAccountData`, `Settings.ofCompressedData`: The two readers.
* `settingsAddress`, `vaultAddress`, `compressedSettingsAddress`: A wallet's addresses.
-/

namespace Cosigner

/-- The number of a wallet. -/
abbrev WalletIndex := BitVec 128

/-- A passkey: a point of P-256 in its 33-byte form. -/
abbrev Passkey := Octets 33

namespace Passkey

/-- The base 58 form. -/
def toText (key : Passkey) : String :=
  Base58.encode key.toBytes

/-- The form for people who look for errors. -/
def inspect (key : Passkey) : String :=
  s!"Secp256r1Pubkey({Base58.encode key.toBytes})"

end Passkey

/-- The kinds of member keys. -/
inductive KeyKind where
  /-- An address. -/
  | ed25519
  /-- A passkey. -/
  | secp256r1
  deriving DecidableEq, Repr

/-- The tag stored in front of a key. -/
def KeyKind.tag : KeyKind → UInt8
  | .ed25519 => 0
  | .secp256r1 => 1

/-- A member's key as it is stored. -/
structure MemberKey where
  /-- The kind of the key. -/
  tag : UInt8
  /-- The key; an address is followed by a zero byte. -/
  key : Octets 33
  deriving DecidableEq

namespace MemberKey

/-- The stored form of an address. -/
def ofAddress (a : Address) : MemberKey :=
  ⟨KeyKind.ed25519.tag, a.append (Octets.replicate 1 0)⟩

/-- The stored form of a passkey. -/
def ofPasskey (key : Passkey) : MemberKey :=
  ⟨KeyKind.secp256r1.tag, key⟩

/-- The kind of a key, if its tag is known. -/
def kind (k : MemberKey) : Except LayoutError KeyKind :=
  if k.tag = KeyKind.ed25519.tag then .ok .ed25519
  else if k.tag = KeyKind.secp256r1.tag then .ok .secp256r1
  else .error (.unknownKeyKind k.tag)

/-- The layout of a stored key. -/
def codec : Codec MemberKey :=
  (Codec.u8.pair (Codec.octets 33)).imap (fun (tag, key) => ⟨tag, key⟩)
    fun k => (k.tag, k.key)

end MemberKey

/-- What a member may be allowed to do, one bit each. -/
abbrev Permission := UInt8

namespace Permission

/-- Propose a transaction. -/
def initiate : Permission := 1

/-- Vote on a transaction. -/
def vote : Permission := 2

/-- Execute a transaction. -/
def execute : Permission := 4

/-- Act on behalf of another member. -/
def delegate : Permission := 8

end Permission

/-- Someone who may act for a wallet. -/
structure Member where
  /-- The member's key. -/
  key : MemberKey
  /-- What the member may do. -/
  permissions : Permission
  deriving DecidableEq

namespace Member

/-- Whether a member has every bit of a permission. -/
def has (m : Member) (p : Permission) : Bool :=
  m.permissions &&& p = p

/-- The layout of a member. -/
def codec : Codec Member :=
  (MemberKey.codec.pair Codec.u8).imap (fun (key, permissions) => ⟨key, permissions⟩)
    fun m => (m.key, m.permissions)

end Member

/-- The settings of a wallet. -/
structure Settings where
  /-- The number of the wallet. -/
  index : WalletIndex
  /-- Those who may act for it. -/
  members : List Member
  /-- How many of them have to agree. -/
  threshold : UInt8
  /-- The bump byte of the vault's address. -/
  vaultBump : UInt8
  /-- The bump byte of the settings' address. -/
  bump : UInt8
  deriving DecidableEq

namespace Settings

/-- The layout of settings. -/
def layout : Layout Settings where
  name := "Settings"
  codec :=
    (Codec.u128.pair ((Codec.listOf 4 Member.codec).pair
      (Codec.u8.pair (Codec.u8.pair Codec.u8)))).imap
      (fun (index, members, threshold, vaultBump, bump) =>
        ⟨index, members, threshold, vaultBump, bump⟩)
      fun s => (s.index, s.members, s.threshold, s.vaultBump, s.bump)

/-- Reads settings from the data of their account. -/
def ofAccountData (data : Bytes) : Except LayoutError Settings := do
  layout.readFront (← AccountType.settings.strip data)

/-- Reads settings from compressed data. -/
def ofCompressedData (data : Bytes) : Except LayoutError Settings :=
  layout.readFront data

/-- Settings as the data of their account. -/
def toAccountData (s : Settings) : Bytes :=
  AccountType.settings.discriminator.toBytes ++ layout.codec.encode s

/-- The first member with a key. -/
def member? (s : Settings) (key : MemberKey) : Option Member :=
  s.members.find? (·.key = key)

end Settings

/-- The seed in front of every address derived for a wallet. -/
def walletSeed : Bytes := Utf8.encode "multi_wallet"

/-- The seed behind the address of a vault. -/
def vaultSeed : Bytes := Utf8.encode "vault"

/-- The seed of addresses of compressed settings. -/
def settingsSeed : Bytes := Utf8.encode "settings"

/-- The address of a wallet's settings account. -/
def settingsAddress (program : Address) (index : WalletIndex) : Address :=
  Address.derive program (walletSeed ++ leBytes 16 index.toNat)

/-- The address of the vault that settings configure. -/
def vaultAddress (program settings : Address) : Address :=
  Address.derive program (walletSeed ++ settings.toBytes ++ vaultSeed)

/-- The Keccak-256 digest of a byte string with its first byte cleared, which
    makes it an element of the field that proofs are made over. -/
def fieldDigest (bs : Bytes) : Octets 32 :=
  let digest := (Keccak256.digest bs).toBytes.drop 1
  ⟨0 :: digest, by rw [List.length_cons, List.length_drop, (Keccak256.digest bs).length_eq]⟩

/-- The address of a wallet's settings in compressed state. -/
def compressedSettingsAddress (program : Address) (index : WalletIndex) : Octets 32 :=
  let seed := fieldDigest (settingsSeed ++ leBytes 16 index.toNat)
  fieldDigest (seed.toBytes ++ Program.addressTree.toBytes ++ program.toBytes)

end Cosigner
