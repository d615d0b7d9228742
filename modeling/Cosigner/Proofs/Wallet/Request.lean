import Cosigner.Proofs.Wallet.Arguments
import Cosigner.Wallet.Request

/-!
# Reading Back Instruction Data

Instruction data is written from an operation and its arguments, and it is read
by looking the operation up by its discriminator and then reading the arguments
with the operation's layout. The two are inverse to each other because no two
operations share a discriminator and because the layouts are exact. So the
co-signer and the program cannot take the same bytes for different requests, and
nothing is hidden in bytes that only one of them looks at.

There are ten layouts and twelve operations that take arguments, so a request
does not always say which operation it was written for. A transfer is the same
request for either currency. What is unique is the spelling for one operation,
the one that the data opens with.

Everything else is refused, and always with the name of the layout: data that
is cut off, data that goes on, and data in which some byte is none that the
layout writes, such as a truth value other than 0 and 1, the tag of no
alternative or bytes that are no text.

## Main definitions

* `ArgumentKind`: The ten kinds of arguments, with their layouts and requests.
* `Operation.arguments?`: The kind of arguments an operation takes.
* `ArgumentKind.ReadBack`: Reading and writing one kind are inverse.

## Theorems

* `ArgumentKind.exact_layout`: The layout of each kind is exact.
* `Request.parse_cases`: How instruction data is read.
* `Request.parse_encode`: What is written is read back.
* `Request.parse_eq_request`: What is read as a request with arguments.
* `ArgumentKind.readBack`: Reading and writing are inverse, for every kind.
-/

namespace Cosigner

/-- The kinds of arguments that the co-signer understands. -/
inductive ArgumentKind where
  /-- Changes of settings. -/
  | changeConfig
  /-- The same for compressed settings. -/
  | changeConfigCompressed
  /-- Transfers. -/
  | transferIntent
  /-- The same for compressed settings. -/
  | transferIntentCompressed
  /-- Creations of buffers. -/
  | bufferCreate
  /-- The same for compressed settings. -/
  | bufferCreateCompressed
  /-- Executions. -/
  | executeSync
  /-- The same for compressed settings. -/
  | executeSyncCompressed
  /-- Creations of user accounts. -/
  | createUserAccounts
  /-- Changes of a user's co-signer. -/
  | editManagerUrl
  deriving DecidableEq

namespace ArgumentKind

/-- The values of a kind. -/
def Value : ArgumentKind → Type
  | .changeConfig => ChangeConfig
  | .changeConfigCompressed => OnCompressed ChangeConfig
  | .transferIntent => TransferIntent
  | .transferIntentCompressed => OnCompressed TransferIntent
  | .bufferCreate => BufferCreate
  | .bufferCreateCompressed => OnCompressed BufferCreate
  | .executeSync => ExecuteSync
  | .executeSyncCompressed => OnCompressed ExecuteSync
  | .createUserAccounts => CreateUserAccounts
  | .editManagerUrl => EditManagerUrl

/-- The layout of a kind. -/
def layout : (k : ArgumentKind) → Layout k.Value
  | .changeConfig => .changeConfig
  | .changeConfigCompressed => .changeConfigCompressed
  | .transferIntent => .transferIntent
  | .transferIntentCompressed => .transferIntentCompressed
  | .bufferCreate => .bufferCreate
  | .bufferCreateCompressed => .bufferCreateCompressed
  | .executeSync => .executeSync
  | .executeSyncCompressed => .executeSyncCompressed
  | .createUserAccounts => .createUserAccounts
  | .editManagerUrl => .editManagerUrl

/-- The request that carries a value. -/
def request : (k : ArgumentKind) → k.Value → Request
  | .changeConfig => .changeConfig
  | .changeConfigCompressed => .changeConfigCompressed
  | .transferIntent => .transferIntent
  | .transferIntentCompressed => .transferIntentCompressed
  | .bufferCreate => .bufferCreate
  | .bufferCreateCompressed => .bufferCreateCompressed
  | .executeSync => .executeSync
  | .executeSyncCompressed => .executeSyncCompressed
  | .createUserAccounts => .createUserAccounts
  | .editManagerUrl => .editManagerUrl

/-- The values whose lists and texts can be counted in four bytes. -/
def Fits : (k : ArgumentKind) → k.Value → Prop
  | .changeConfig => ChangeConfig.Fits
  | .changeConfigCompressed => fun a => ChangeConfig.Fits a.arguments
  | .transferIntent => fun _ => True
  | .transferIntentCompressed => fun _ => True
  | .bufferCreate => fun b => b.buffer.length < 256 ^ 4
  | .bufferCreateCompressed => fun a => a.arguments.buffer.length < 256 ^ 4
  | .executeSync => ExecuteSync.Fits
  | .executeSyncCompressed => fun a => ExecuteSync.Fits a.arguments
  | .createUserAccounts => CreateUserAccounts.Fits
  | .editManagerUrl => fun e => (Utf8.encode e.url).length < 256 ^ 4

-- Every layout is exact, by its kind.
theorem exact_layout (k : ArgumentKind) : k.layout.codec.Exact k.Fits := by
  cases k with
  | changeConfig => exact ChangeConfig.exact_codec
  | changeConfigCompressed => exact OnCompressed.exact_codec ChangeConfig.exact_codec
  | transferIntent => exact TransferIntent.exact_codec
  | transferIntentCompressed => exact OnCompressed.exact_codec TransferIntent.exact_codec
  | bufferCreate => exact BufferCreate.exact_codec
  | bufferCreateCompressed => exact OnCompressed.exact_codec BufferCreate.exact_codec
  | executeSync => exact ExecuteSync.exact_codec
  | executeSyncCompressed => exact OnCompressed.exact_codec ExecuteSync.exact_codec
  | createUserAccounts => exact CreateUserAccounts.exact_codec
  | editManagerUrl => exact EditManagerUrl.exact_codec

end ArgumentKind

namespace Request

/-- The value that a request carries, with its kind. -/
def arguments? : Request → Option (Σ k : ArgumentKind, k.Value)
  | .changeConfig a => some ⟨.changeConfig, a⟩
  | .changeConfigCompressed a => some ⟨.changeConfigCompressed, a⟩
  | .transferIntent a => some ⟨.transferIntent, a⟩
  | .transferIntentCompressed a => some ⟨.transferIntentCompressed, a⟩
  | .bufferCreate a => some ⟨.bufferCreate, a⟩
  | .bufferCreateCompressed a => some ⟨.bufferCreateCompressed, a⟩
  | .executeSync a => some ⟨.executeSync, a⟩
  | .executeSyncCompressed a => some ⟨.executeSyncCompressed, a⟩
  | .createUserAccounts a => some ⟨.createUserAccounts, a⟩
  | .editManagerUrl a => some ⟨.editManagerUrl, a⟩
  | .noOp _ => none
  | .unrouted _ => none

-- A request knows what its arguments are.
theorem arguments?_request (k : ArgumentKind) (value : k.Value) :
    (k.request value).arguments? = some ⟨k, value⟩ := by
  cases k <;> rfl

-- A request says what it carries.
theorem request_inj (k k' : ArgumentKind) (value : k.Value) (value' : k'.Value)
    (h : k.request value = k'.request value') :
    (⟨k, value⟩ : Σ k : ArgumentKind, k.Value) = ⟨k', value'⟩ := by
  have harguments := congrArg arguments? h
  rwa [arguments?_request, arguments?_request, Option.some.injEq] at harguments

end Request

namespace Operation

/-- The kind of arguments an operation takes, if the co-signer looks at them. -/
def arguments? : Operation → Option ArgumentKind
  | .changeConfig => some .changeConfig
  | .changeConfigCompressed => some .changeConfigCompressed
  | .nativeTransferIntent => some .transferIntent
  | .tokenTransferIntent => some .transferIntent
  | .nativeTransferIntentCompressed => some .transferIntentCompressed
  | .tokenTransferIntentCompressed => some .transferIntentCompressed
  | .transactionBufferCreate => some .bufferCreate
  | .transactionBufferCreateCompressed => some .bufferCreateCompressed
  | .transactionExecuteSync => some .executeSync
  | .transactionExecuteSyncCompressed => some .executeSyncCompressed
  | .createUserAccounts => some .createUserAccounts
  | .editTransactionManagerUrl => some .editManagerUrl
  | _ => none

/-- Every operation is found by its discriminator, so no two share one. -/
theorem ofDiscriminator?_discriminator (op : Operation) :
    ofDiscriminator? op.discriminator = some op := by
  cases op <;> decide +kernel

theorem split_withArguments (op : Operation) (arguments : Bytes) :
    split (op.withArguments arguments) = .ok (op.discriminator, arguments) := by
  have htake : (op.withArguments arguments).take 8 = op.discriminator.toBytes := by
    rw [withArguments, List.take_left' op.discriminator.length_eq]
  have hdrop : (op.withArguments arguments).drop 8 = arguments := by
    rw [withArguments, List.drop_left' op.discriminator.length_eq]
  rw [split, htake, hdrop, Octets.ofBytes?, dif_pos op.discriminator.length_eq]

-- Eight bytes in front are a discriminator, of an operation or of none.
theorem opens_of_split (data arguments : Bytes) (d : Discriminator)
    (h : split data = .ok (d, arguments)) : d.toBytes ++ arguments = data := by
  unfold split Octets.ofBytes? at h
  by_cases hlength : (data.take 8).length = 8
  · simp only [hlength, dif_pos, Except.ok.injEq, Prod.mk.injEq] at h
    rw [← h.1, ← h.2]
    exact List.take_append_drop 8 data
  · simp only [hlength, dif_neg, not_false_eq_true, reduceCtorEq] at h

/-- Eight bytes are needed to tell an operation. -/
theorem split_of_short (data : Bytes) (h : data.length < 8) :
    split data = .error (.noDiscriminator data.length) := by
  have hlength : ¬ (data.take 8).length = 8 := by
    rw [List.length_take]
    omega
  simp only [split, Octets.ofBytes?, dif_neg hlength]

end Operation

namespace Layout

variable {α : Type} (l : Layout α) (Fits : α → Prop)

/-- Bytes are read as a value exactly if it fits and they are all of its bytes. -/
theorem read_eq_ok (hl : l.codec.Exact Fits) (bs : Bytes) (value : α) :
    l.read bs = .ok value ↔ Fits value ∧ bs = l.codec.encode value := by
  rw [← hl.decodeAll_eq_ok, read]
  cases l.codec.decodeAll bs with
  | error fault => simp only [reduceCtorEq]
  | ok a => simp only [Except.ok.injEq]

-- A layout refuses what is no form of a value, under its own name.
theorem read_of_no_form (hl : l.codec.Exact Fits) (bs : Bytes)
    (h : ∀ value, Fits value → bs ≠ l.codec.encode value) :
    ∃ fault, l.read bs = .error (.undecodable l.name fault) := by
  rw [read]
  cases hread : l.codec.decodeAll bs with
  | error fault => exact ⟨fault, rfl⟩
  | ok value =>
      rcases (hl.decodeAll_eq_ok bs value).mp hread with ⟨hfits, hbs⟩
      exact absurd hbs (h value hfits)

-- What stands behind the form of a value is counted in the refusal.
theorem read_append (hl : l.codec.Exact Fits) (value : α) (hfits : Fits value) (extra : Bytes)
    (h : extra ≠ []) :
    l.read (l.codec.encode value ++ extra)
      = .error (.undecodable l.name (.trailing extra.length)) := by
  have hdecode := (hl (l.codec.encode value ++ extra) value extra).mpr ⟨hfits, rfl⟩
  have hempty : ¬ extra.isEmpty = true := by rwa [List.isEmpty_iff]
  simp only [read, Codec.decodeAll, hdecode, bind, Except.bind, if_neg hempty, Outcome.throw_eq]

-- The front of a form is no form, since forms show where they end.
theorem read_take (hl : l.codec.Exact Fits) (value : α) (hfits : Fits value) (n : Nat)
    (hn : n < (l.codec.encode value).length) :
    ∃ fault, l.read ((l.codec.encode value).take n) = .error (.undecodable l.name fault) := by
  refine l.read_of_no_form Fits hl _ fun value' hfits' hform => ?_
  have hwhole : l.codec.encode value' ++ (l.codec.encode value).drop n
      = l.codec.encode value ++ [] := by
    rw [← hform, List.take_append_drop, List.append_nil]
  have hdrop := (hl.prefix_free value' value hfits' hfits _ _ hwhole).2
  rw [List.drop_eq_nil_iff] at hdrop
  omega

end Layout

namespace Request

/-- Instruction data of an operation is read with the layout of the operation. -/
theorem parse_withArguments (op : Operation) (arguments : Bytes) :
    parse (op.withArguments arguments) = ofArguments op arguments := by
  simp only [parse, Operation.split_withArguments, bind, Except.bind,
    Operation.ofDiscriminator?_discriminator]

-- Instruction data asks for an operation, or opens with none: then it is too
-- short, or it is unrouted.
theorem parse_cases (data : Bytes) :
    (∃ op arguments, data = op.withArguments arguments ∧
        parse data = ofArguments op arguments) ∨
      ((∀ op arguments, data ≠ Operation.withArguments op arguments) ∧
        ((∃ e, parse data = .error e) ∨ ∃ what, parse data = .ok (.unrouted what))) := by
  by_cases hdata : ∃ op arguments, data = Operation.withArguments op arguments
  · rcases hdata with ⟨op, arguments, rfl⟩
    exact .inl ⟨op, arguments, rfl, parse_withArguments op arguments⟩
  · have hnone : ∀ op arguments, data ≠ Operation.withArguments op arguments :=
      fun op arguments hc => hdata ⟨op, arguments, hc⟩
    refine .inr ⟨hnone, ?_⟩
    unfold parse
    cases hsplit : Operation.split data with
    | error e => exact .inl ⟨e, rfl⟩
    | ok parts =>
        rcases parts with ⟨d, arguments⟩
        cases hfind : Operation.ofDiscriminator? d with
        | none => exact .inr ⟨.discriminator d, by simp only [bind, Except.bind, hfind]; rfl⟩
        | some op =>
            -- The data would open with this operation.
            have hd := List.find?_some hfind
            rw [decide_eq_true_iff] at hd
            have hopens := Operation.opens_of_split data arguments d hsplit
            rw [← hd] at hopens
            exact absurd hopens.symm (hnone op arguments)

theorem ofArguments_of_kind (op : Operation) (k : ArgumentKind) (h : op.arguments? = some k)
    (bs : Bytes) : ofArguments op bs = k.request <$> k.layout.read bs := by
  cases op <;> cases h <;> rfl

/-- Behind the discriminator of an operation its arguments are read, to the last byte. -/
theorem parse_of_kind (op : Operation) (k : ArgumentKind) (h : op.arguments? = some k)
    (bs : Bytes) : parse (op.withArguments bs) = k.request <$> k.layout.read bs := by
  rw [parse_withArguments, ofArguments_of_kind op k h]

-- An operation whose arguments are not looked at makes a request without any.
theorem ofArguments_of_no_kind (op : Operation) (h : op.arguments? = none) (bs : Bytes) :
    ∃ r, ofArguments op bs = .ok r ∧ r.arguments? = none := by
  cases op
  case decompressSettingsAccount | transactionBufferClose | transactionBufferCloseCompressed =>
    exact ⟨_, rfl, rfl⟩
  case compressSettingsAccount | createDomainConfig | createWallet | transactionBufferExecute
    | transactionBufferExecuteCompressed | transactionBufferExtend
    | transactionBufferExtendCompressed | transactionBufferVote | transactionBufferVoteCompressed
    | transactionExecute | transactionExecuteCompressed => exact ⟨_, rfl, rfl⟩
  all_goals exact absurd h (Option.some_ne_none _)

/-- Arguments that fit their layout are read back. -/
theorem parse_encode (op : Operation) (k : ArgumentKind) (h : op.arguments? = some k)
    (value : k.Value) (hfits : k.Fits value) :
    parse (op.encode k.layout value) = .ok (k.request value) := by
  have hread := (k.layout.read_eq_ok k.Fits k.exact_layout _ value).mpr ⟨hfits, rfl⟩
  rw [Operation.encode, parse_of_kind op k h, hread]
  rfl

/-- Data that is read as a request with arguments is what is written for one of
    the operations that take such arguments. -/
theorem parse_eq_request (data : Bytes) (k : ArgumentKind) (value : k.Value)
    (h : parse data = .ok (k.request value)) :
    ∃ op : Operation, op.arguments? = some k ∧ k.Fits value ∧
      data = op.encode k.layout value := by
  rcases parse_cases data with ⟨op, bs, hdata, hparse⟩ | ⟨_, hnone⟩
  · rw [hparse] at h
    cases hkind : op.arguments? with
    | none =>
        rcases ofArguments_of_no_kind op hkind bs with ⟨r, hr, hcarries⟩
        rw [hr, Except.ok.injEq] at h
        rw [h, arguments?_request] at hcarries
        exact absurd hcarries (Option.some_ne_none _)
    | some k' =>
        rw [ofArguments_of_kind op k' hkind, Outcome.map_eq_ok] at h
        rcases h with ⟨value', hread, hrequest⟩
        -- The request says that this is the kind asked for.
        cases request_inj k' k value' value hrequest
        rcases (k.layout.read_eq_ok k.Fits k.exact_layout bs value).mp hread with ⟨hfits, hbs⟩
        exact ⟨op, hkind, hfits, by rw [hdata, hbs]; rfl⟩
  · rcases hnone with ⟨e, he⟩ | ⟨what, hwhat⟩
    · rw [he] at h
      exact absurd h (by simp only [reduceCtorEq, not_false_eq_true])
    · rw [hwhat, Except.ok.injEq] at h
      have hcarries := congrArg arguments? h
      rw [arguments?_request] at hcarries
      exact absurd hcarries.symm (Option.some_ne_none _)

-- Data that is cut off lacks a discriminator, or the end of its arguments.
theorem parse_take (op : Operation) (k : ArgumentKind) (h : op.arguments? = some k)
    (value : k.Value) (hfits : k.Fits value) (n : Nat)
    (hn : n < (op.encode k.layout value).length) :
    (n < 8 ∧ parse ((op.encode k.layout value).take n) = .error (.noDiscriminator n)) ∨
      (8 ≤ n ∧ ∃ fault, parse ((op.encode k.layout value).take n)
        = .error (.undecodable k.layout.name fault)) := by
  have hlength : ((op.encode k.layout value).take n).length = n := by
    rw [List.length_take]
    omega
  by_cases hshort : n < 8
  · refine .inl ⟨hshort, ?_⟩
    have hsplit := Operation.split_of_short ((op.encode k.layout value).take n) (by omega)
    rw [parse, hsplit, hlength]
    rfl
  · have height := op.discriminator.length_eq
    have htake : (op.encode k.layout value).take n
        = op.withArguments ((k.layout.codec.encode value).take (n - 8)) := by
      rw [Operation.encode, Operation.withArguments, Operation.withArguments, List.take_append,
        height, List.take_of_length_le (by omega)]
    have hcut : n - 8 < (k.layout.codec.encode value).length := by
      rw [Operation.encode, Operation.withArguments, List.length_append, height] at hn
      omega
    rcases k.layout.read_take k.Fits k.exact_layout value hfits (n - 8) hcut with ⟨fault, hread⟩
    refine .inr ⟨by omega, fault, ?_⟩
    rw [htake, parse_of_kind op k h, hread]
    rfl

end Request

namespace ArgumentKind

/-- Reading and writing instruction data with arguments of one kind are inverse. -/
structure ReadBack (k : ArgumentKind) : Prop where
  -- Some operation takes such arguments.
  taken : ∃ op : Operation, op.arguments? = some k
  -- What is written for an operation that does is read as the same value.
  written : ∀ op : Operation, op.arguments? = some k → ∀ value, k.Fits value →
    Request.parse (op.encode k.layout value) = .ok (k.request value)
  -- What is read as a value is what is written for the operation that the first
  -- eight bytes name.
  read : ∀ data value, Request.parse data = .ok (k.request value) →
    ∃ op : Operation, op.arguments? = some k ∧ data.take 8 = op.discriminator.toBytes ∧
      k.Fits value ∧ data = op.encode k.layout value
  -- So for one operation there is one spelling of a value.
  unique : ∀ data data' value, Request.parse data = .ok (k.request value) →
    Request.parse data' = .ok (k.request value) → data.take 8 = data'.take 8 → data = data'
  -- Bytes that are written for no value are refused by the layout.
  refused : ∀ op : Operation, op.arguments? = some k → ∀ bs,
    (∀ value, k.Fits value → bs ≠ k.layout.codec.encode value) →
      ∃ fault, Request.parse (op.withArguments bs) = .error (.undecodable k.layout.name fault)
  -- So is data that is cut off, unless it is too short to name an operation.
  truncated : ∀ op : Operation, op.arguments? = some k → ∀ value, k.Fits value →
    ∀ n < (op.encode k.layout value).length,
      (n < 8 ∧ Request.parse ((op.encode k.layout value).take n) = .error (.noDiscriminator n)) ∨
        (8 ≤ n ∧ ∃ fault, Request.parse ((op.encode k.layout value).take n)
          = .error (.undecodable k.layout.name fault))
  -- So is data that goes on, and the refusal counts what is too much.
  trailing : ∀ op : Operation, op.arguments? = some k → ∀ value, k.Fits value →
    ∀ extra ≠ [], Request.parse (op.encode k.layout value ++ extra)
      = .error (.undecodable k.layout.name (.trailing extra.length))

-- No layout is without an operation.
theorem exists_arguments?_eq (k : ArgumentKind) : ∃ op : Operation, op.arguments? = some k := by
  cases k with
  | changeConfig => exact ⟨.changeConfig, rfl⟩
  | changeConfigCompressed => exact ⟨.changeConfigCompressed, rfl⟩
  | transferIntent => exact ⟨.nativeTransferIntent, rfl⟩
  | transferIntentCompressed => exact ⟨.nativeTransferIntentCompressed, rfl⟩
  | bufferCreate => exact ⟨.transactionBufferCreate, rfl⟩
  | bufferCreateCompressed => exact ⟨.transactionBufferCreateCompressed, rfl⟩
  | executeSync => exact ⟨.transactionExecuteSync, rfl⟩
  | executeSyncCompressed => exact ⟨.transactionExecuteSyncCompressed, rfl⟩
  | createUserAccounts => exact ⟨.createUserAccounts, rfl⟩
  | editManagerUrl => exact ⟨.editTransactionManagerUrl, rfl⟩

/-- Reading instruction data is the exact inverse of writing it, for each of the
    ten kinds of arguments. -/
theorem readBack (k : ArgumentKind) : k.ReadBack where
  taken := k.exists_arguments?_eq
  written op h value hfits := Request.parse_encode op k h value hfits
  read data value h := by
    rcases Request.parse_eq_request data k value h with ⟨op, hkind, hfits, hdata⟩
    refine ⟨op, hkind, ?_, hfits, hdata⟩
    rw [hdata, Operation.encode, Operation.withArguments,
      List.take_left' op.discriminator.length_eq]
  unique data data' value h h' hopen := by
    rcases Request.parse_eq_request data k value h with ⟨op, _, _, hdata⟩
    rcases Request.parse_eq_request data' k value h' with ⟨op', _, _, hdata'⟩
    -- Both open with the discriminator of their operation.
    simp only [hdata, hdata', Operation.encode, Operation.withArguments,
      List.take_left' (Octets.length_eq _)] at hopen
    simp only [hdata, hdata', Operation.encode, Operation.withArguments, hopen]
  refused op h bs hnone := by
    rcases k.layout.read_of_no_form k.Fits k.exact_layout bs hnone with ⟨fault, hread⟩
    refine ⟨fault, ?_⟩
    rw [Request.parse_of_kind op k h, hread]
    rfl
  truncated op h value hfits n hn := Request.parse_take op k h value hfits n hn
  trailing op h value hfits extra hextra := by
    have hread := k.layout.read_append k.Fits k.exact_layout value hfits extra hextra
    rw [Operation.encode, Operation.withArguments, List.append_assoc, ← Operation.withArguments,
      Request.parse_of_kind op k h, hread]
    rfl

/-- One user account is read back from its bytes, a text with a character of two bytes
    among them. -/
theorem readBack_userAccount :
    let value : CreateUserAccounts := ⟨[⟨⟨0, .replicate 33 7⟩, true, some "é"⟩], none⟩
    let data (permanent presence : UInt8) (url : Bytes) :=
      Operation.createUserAccounts.withArguments ([1, 0, 0, 0] ++ (0 :: List.replicate 33 7) ++
        [permanent, presence, 2, 0, 0, 0] ++ url ++ [0])
    let refused (fault : Codec.Fault) : Except LayoutError Request :=
      .error (.undecodable "CreateUserAccountsArgs" fault)
    value.Fits ∧
    data 1 1 [0xC3, 0xA9] = Operation.createUserAccounts.encode .createUserAccounts value ∧
    Request.parse (data 1 1 [0xC3, 0xA9]) = .ok (.createUserAccounts value) ∧
    Request.parse (data 1 1 [0xC3, 0xA9] ++ [0]) = refused (.trailing 1) ∧
    Request.parse (data 2 1 [0xC3, 0xA9]) = refused (.badFlag 2) ∧
    Request.parse (data 1 2 [0xC3, 0xA9]) = refused (.badPresence 2) ∧
    Request.parse (data 1 1 [0xC3, 0x28]) = refused (.badText (.illFormed 0 1)) := by
  intro value data refused
  have hdata : data 1 1 [0xC3, 0xA9]
      = Operation.createUserAccounts.encode .createUserAccounts value := by decide +kernel
  have hurl : ∀ url ∈ some "é", (Utf8.encode url).length < 256 ^ 4 := by decide +kernel
  have hfits : value.Fits := ⟨by decide, List.forall_mem_singleton.mpr hurl⟩
  have hback := readBack .createUserAccounts
  refine ⟨hfits, hdata, ?_, ?_, by decide +kernel, by decide +kernel, by decide +kernel⟩
  · rw [hdata]
    exact hback.written .createUserAccounts rfl value hfits
  · rw [hdata]
    exact hback.trailing .createUserAccounts rfl value hfits [0] (List.cons_ne_nil 0 [])

end ArgumentKind

end Cosigner
