import Cosigner.Proofs.Codec
import Cosigner.Wallet.Settings

/-!
# Where the Addresses of a Wallet Come From

A wallet is known by addresses that nobody chose. They are computed, and whoever
computes another one means another wallet. So it is written out here what goes into
each of them, byte by byte, without the functions that compute them.

Two of the three are derived for the wallet program. Seeds, a bump byte, the program
and a fixed text are hashed, and the digest counts if it is no point of the curve. It
is one in about half of all cases, and then the next lower bump byte is tried. An
address that is derived is therefore the digest for the greatest bump byte that gives
one off the curve, and there is only one such address.

The third is the address of compressed settings. Two digests follow each other, and
each has its first byte cleared.

## Main definitions

* `Address.OffCurve`: An address that nobody can hold a key for.
* `Address.DerivedFrom`: The address derived for a program from seeds.
* `FieldDigestOf`: A digest whose first byte is cleared.
* `SettingsAt`, `VaultOf`, `CompressedSettingsAt`: The addresses of a wallet.

## Theorems

* `Address.deriveFrom_eq_some`, `Address.deriveFrom_eq_none`: Trying bump bytes.
* `Address.derivedFrom_iff`: There is one address for given seeds, and it is found.
* `settingsAt_iff`, `vaultOf_iff`, `compressedSettingsAt_iff`: The three functions.
* `rel_vaultOf_iff`: A vault is there exactly if settings are.
-/

namespace Cosigner

namespace Address

/-- An address that is no point of the curve. -/
def OffCurve (a : Address) : Prop :=
  Ed25519.Point.decompress? a = none

/-- The digest for a bump byte: of the seeds, the byte, the program and a fixed text. -/
def bumped (program : Address) (seeds : Bytes) (bump : Nat) : Address :=
  Sha256.digest
    (seeds ++ [UInt8.ofNat bump] ++ program.toBytes ++ Utf8.encode "ProgramDerivedAddress")

/-- An address is the one that is derived for a program from seeds. -/
inductive DerivedFrom (program : Address) (seeds : Bytes) : Address → Prop where
  /-- It is off the curve, and for no greater bump byte is the digest off the curve. -/
  | found (bump : Nat) (hlow : 1 ≤ bump) (hhigh : bump ≤ 255)
      (hoff : OffCurve (bumped program seeds bump))
      (hfirst : ∀ higher, bump < higher → higher ≤ 255 → ¬ OffCurve (bumped program seeds higher)) :
      DerivedFrom program seeds (bumped program seeds bump)
  /-- No digest is off the curve, and the zero address takes its place. -/
  | exhausted (hon : ∀ bump, 1 ≤ bump → bump ≤ 255 → ¬ OffCurve (bumped program seeds bump)) :
      DerivedFrom program seeds (Octets.replicate 32 0)

variable (program : Address) (seeds : Bytes)

/-- A candidate is the digest for its bump byte. -/
theorem candidate_eq (bump : Nat) : candidate program seeds bump = bumped program seeds bump := by
  simp only [candidate, bumped, derivationMark, List.append_assoc, List.cons_append,
    List.nil_append]

-- A bump byte is taken if its digest is off the curve.
theorem deriveFrom_of_offCurve (bump : Nat) (h : OffCurve (bumped program seeds (bump + 1))) :
    deriveFrom program seeds (bump + 1) = some (bumped program seeds (bump + 1)) := by
  have hnone : (Ed25519.Point.decompress? (bumped program seeds (bump + 1))).isNone = true :=
    Option.isNone_iff_eq_none.mpr h
  simp only [deriveFrom, candidate_eq, hnone, if_true]

-- Otherwise the lower ones are tried.
theorem deriveFrom_of_onCurve (bump : Nat) (h : ¬ OffCurve (bumped program seeds (bump + 1))) :
    deriveFrom program seeds (bump + 1) = deriveFrom program seeds bump := by
  have hsome : ¬ (Ed25519.Point.decompress? (bumped program seeds (bump + 1))).isNone = true :=
    fun hnone => h (Option.isNone_iff_eq_none.mp hnone)
  simp only [deriveFrom, candidate_eq, if_neg hsome]

/-- What is found below a bump byte is the digest for the greatest one off the curve. -/
theorem deriveFrom_eq_some (limit : Nat) (a : Address) :
    deriveFrom program seeds limit = some a ↔
      ∃ bump, 1 ≤ bump ∧ bump ≤ limit ∧ OffCurve (bumped program seeds bump) ∧
        (∀ higher, bump < higher → higher ≤ limit → ¬ OffCurve (bumped program seeds higher)) ∧
        a = bumped program seeds bump := by
  induction limit with
  | zero =>
      constructor
      · intro h
        cases h
      · intro h
        rcases h with ⟨bump, hlow, hhigh, _⟩
        exact absurd hlow (Nat.not_le_of_lt (Nat.lt_succ_of_le hhigh))
  | succ limit ih =>
      by_cases hoff : OffCurve (bumped program seeds (limit + 1))
      · -- The greatest bump byte of all is taken, and no other one is the first.
        rw [deriveFrom_of_offCurve program seeds limit hoff, Option.some.injEq]
        constructor
        · intro h
          exact ⟨limit + 1, Nat.le_add_left 1 limit, Nat.le_refl _, hoff,
            fun higher hlt hle => absurd hle (Nat.not_le_of_lt hlt), h.symm⟩
        · intro h
          rcases h with ⟨bump, _, hhigh, _, hfirst, rfl⟩
          rcases Nat.lt_or_eq_of_le hhigh with hlt | rfl
          · exact absurd hoff (hfirst (limit + 1) hlt (Nat.le_refl _))
          · rfl
      · rw [deriveFrom_of_onCurve program seeds limit hoff, ih]
        constructor
        · intro h
          rcases h with ⟨bump, hlow, hhigh, hbump, hfirst, ha⟩
          refine ⟨bump, hlow, Nat.le_succ_of_le hhigh, hbump, fun higher hlt hle => ?_, ha⟩
          rcases Nat.lt_or_eq_of_le hle with hless | rfl
          · exact hfirst higher hlt (Nat.le_of_lt_succ hless)
          · exact hoff
        · intro h
          rcases h with ⟨bump, hlow, hhigh, hbump, hfirst, ha⟩
          rcases Nat.lt_or_eq_of_le hhigh with hlt | rfl
          · exact ⟨bump, hlow, Nat.le_of_lt_succ hlt, hbump,
              fun higher hhigher hle => hfirst higher hhigher (Nat.le_succ_of_le hle), ha⟩
          · exact absurd hbump hoff

/-- Nothing is found below a bump byte exactly if all digests are on the curve. -/
theorem deriveFrom_eq_none (limit : Nat) :
    deriveFrom program seeds limit = none ↔
      ∀ bump, 1 ≤ bump → bump ≤ limit → ¬ OffCurve (bumped program seeds bump) := by
  induction limit with
  | zero =>
      exact iff_of_true rfl fun bump hlow hhigh =>
        absurd hlow (Nat.not_le_of_lt (Nat.lt_succ_of_le hhigh))
  | succ limit ih =>
      by_cases hoff : OffCurve (bumped program seeds (limit + 1))
      · rw [deriveFrom_of_offCurve program seeds limit hoff]
        refine iff_of_false (by simp only [reduceCtorEq, not_false_eq_true]) fun h => ?_
        exact h (limit + 1) (Nat.le_add_left 1 limit) (Nat.le_refl _) hoff
      · rw [deriveFrom_of_onCurve program seeds limit hoff, ih]
        constructor
        · intro h bump hlow hhigh
          rcases Nat.lt_or_eq_of_le hhigh with hlt | rfl
          · exact h bump hlow (Nat.le_of_lt_succ hlt)
          · exact hoff
        · intro h bump hlow hhigh
          exact h bump hlow (Nat.le_succ_of_le hhigh)

/-- There is one address for given seeds, and it is the one that is computed. -/
theorem derivedFrom_iff (a : Address) : DerivedFrom program seeds a ↔ a = derive program seeds := by
  unfold derive derive?
  constructor
  · intro h
    cases h with
    | found bump hlow hhigh hoff hfirst =>
        have hfound : deriveFrom program seeds 255 = some (bumped program seeds bump) :=
          (deriveFrom_eq_some program seeds 255 _).mpr ⟨bump, hlow, hhigh, hoff, hfirst, rfl⟩
        rw [hfound, Option.getD_some]
    | exhausted hon =>
        have hfound : deriveFrom program seeds 255 = none :=
          (deriveFrom_eq_none program seeds 255).mpr hon
        rw [hfound]
        rfl
  · intro h
    rw [h]
    cases hfound : deriveFrom program seeds 255 with
    | none => exact .exhausted ((deriveFrom_eq_none program seeds 255).mp hfound)
    | some found =>
        rcases (deriveFrom_eq_some program seeds 255 found).mp hfound with
          ⟨bump, hlow, hhigh, hoff, hfirst, hbump⟩
        rw [Option.getD_some, hbump]
        exact .found bump hlow hhigh hoff hfirst

end Address

/-- The address of the settings account of a wallet. Its number has 16 bytes, the lowest
    of them first. -/
def SettingsAt (program : Address) (index : WalletIndex) (a : Address) : Prop :=
  Address.DerivedFrom program (Utf8.encode "multi_wallet" ++ leBytes 16 index.toNat) a

/-- The address of the vault that a settings account configures. -/
def VaultOf (program settings a : Address) : Prop :=
  Address.DerivedFrom program
    (Utf8.encode "multi_wallet" ++ settings.toBytes ++ Utf8.encode "vault") a

/-- A Keccak-256 digest whose first byte is cleared. -/
def FieldDigestOf (bs : Bytes) (digest : Octets 32) : Prop :=
  digest.toBytes = 0 :: (Keccak256.digest bs).toBytes.tail

/-- The address of the settings of a wallet in compressed state. A first digest takes the
    number of the wallet, a second one the tree of such addresses and the program. -/
def CompressedSettingsAt (program : Address) (index : WalletIndex) (a : Octets 32) : Prop :=
  ∃ seed tree,
    FieldDigestOf (Utf8.encode "settings" ++ leBytes 16 index.toNat) seed ∧
      Address.parse "amt2kaJA14v3urZbZvnc5v2np8jqvc4Z8zDep5wbtzx" = .ok tree ∧
      FieldDigestOf (seed.toBytes ++ tree.toBytes ++ program.toBytes) a

/-- The settings of a wallet have one address, and it is the one that is computed. -/
theorem settingsAt_iff (program : Address) (index : WalletIndex) (a : Address) :
    SettingsAt program index a ↔ a = settingsAddress program index :=
  Address.derivedFrom_iff program _ a

/-- The vault of a settings account has one address as well. -/
theorem vaultOf_iff (program settings a : Address) :
    VaultOf program settings a ↔ a = vaultAddress program settings :=
  Address.derivedFrom_iff program _ a

/-- There is a vault where there are settings, and only there. -/
theorem rel_vaultOf_iff (program : Address) (settings wallet : Option Address) :
    Option.Rel (VaultOf program) settings wallet ↔
      wallet = settings.map (vaultAddress program) := by
  constructor
  · intro h
    cases h with
    | none => rfl
    | some hvault => exact congrArg some ((vaultOf_iff program _ _).mp hvault)
  · intro h
    rw [h]
    cases settings with
    | none => exact .none
    | some settings => exact .some ((vaultOf_iff program settings _).mpr rfl)

/-- Clearing the first byte of a digest leaves one byte string. -/
theorem fieldDigestOf_iff (bs : Bytes) (digest : Octets 32) :
    FieldDigestOf bs digest ↔ digest = fieldDigest bs := by
  rw [FieldDigestOf, ← List.drop_one]
  exact ⟨fun h => Octets.ext digest _ h, fun h => by rw [h]; rfl⟩

-- The tree is a constant of the program, given there by its bytes.
theorem parse_addressTree :
    Address.parse "amt2kaJA14v3urZbZvnc5v2np8jqvc4Z8zDep5wbtzx" = .ok Program.addressTree := by
  decide +kernel

/-- In compressed state, too, the settings of a wallet have one address. -/
theorem compressedSettingsAt_iff (program : Address) (index : WalletIndex) (a : Octets 32) :
    CompressedSettingsAt program index a ↔ a = compressedSettingsAddress program index := by
  simp only [CompressedSettingsAt, fieldDigestOf_iff, parse_addressTree, Except.ok.injEq,
    exists_and_left, exists_eq_left, exists_eq_left']
  rfl

-- The digest for the bump byte 255 is on the curve, so this wallet has the next one.
example :
    let settings := settingsAddress Program.wallet 7
    settings.toText = "C3zQMgt3iccCFTZf2Wwz5wMt7RSTKmnumzxDLiS5KdDV" ∧
      (vaultAddress Program.wallet settings).toText
        = "36yDqAX27pF8rGidfojjxqGfPJDWXSYmLjTQBsLjcQKo" := by
  decide +kernel

end Cosigner
